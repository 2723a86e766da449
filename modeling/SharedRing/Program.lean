import SharedRing.CommandLine.Settings
import SharedRing.CommandLine.Usage
import SharedRing.Deployment
import SharedRing.LogFilter.Parser
import SharedRing.Video.Publish
import SharedRing.Video.Receive

/-!
The two programs, from their arguments and variables to an exit code, the text on standard error
and the notices in the log. One publishes frames, the other receives them.
-/

namespace SharedRing

inductive Program where
  | producer
  | consumer
  deriving DecidableEq, Repr

namespace Program

structure Outcome where
  exitCode : Nat
  errorText : String
  /-- Help was asked for and goes to standard output. -/
  showsHelp : Bool
  /-- The notices that the log takes. -/
  log : List Notice
  deployment : Deployment

/-- The lines of a cause: its number, if it has one, and then blanks to keep the lines together. -/
def indent (number? : Option Nat) (text : String) : String :=
  match number? with
  | none => "    " ++ "\n    ".intercalate (text.splitOn "\n")
  | some n => s!"    {n}: " ++ "\n       ".intercalate (text.splitOn "\n")

/-- How a failing program explains itself: the error, and its causes below it, which are numbered
when there are several. -/
def explain (message : String) (causes : List String) : String :=
  let lines := match causes with
    | [] => []
    | [cause] => [indent none cause]
    | _ => (causes.zipIdx).map (fun c => indent (some c.2) c.1)
  let below := if lines.isEmpty then "" else "\n\nCaused by:\n" ++ "\n".intercalate lines
  s!"Error: {message}{below}\n"

def refused (e : CommandLine.Refusal) : Outcome :=
  match e with
  | .help => ⟨0, "", true, [], .development⟩
  | e => ⟨2, s!"error: {e.message}\n", false, [], .development⟩

def withOwnLog {α : Type} (f : Host → α × Host) (h : Host) : α × List Notice × Host :=
  let (a, h') := f { h with notices := #[] }
  (a, h'.notices.toList, { h' with notices := h.notices })

def publishOnHost (s : Video.ProducerSettings) (stopAfter : Option Nat)
    (elapsed : Nat → Duration) (h : Host) : (Nat × String) × Host :=
  match Video.publish s stopAfter elapsed (h.report .signalsRegistered) with
  | (.ok _, h) => ((0, ""), h.report .producerStopped)
  | (.error (.error e), h) =>
      ((1, explain e.message e.causes),
        h.report (.producerFailed (": ".intercalate e.chain)))
  | (.error (.breaksOff e), h) => ((101, s!"{e.message}\n"), h)

def receiveOnHost (s : Video.ConsumerSettings) (h : Host) : (Nat × String) × Host :=
  match Video.receive s false h with
  | (.ok stats, h) => ((0, ""), h.report (.consumerStopped stats.received))
  | (.error e, h) => ((1, explain "Frame consumer failed" e.chain), h)

def finish (env : Variables) (run : Host → (Nat × String) × Host) (h : Host) :
    Outcome × Host :=
  let ((code, text), notices, h) := withOwnLog run h
  let filter := LogFilter.ofVariables env
  (⟨code, text, false, notices.filter filter.takes,
    .ofVariables env⟩, h)

/-- Runs a program from its command line. Nothing stops it before its own end. -/
def run (p : Program) (argv : List String) (env : Variables) (elapsed : Nat → Duration)
    (h : Host) : Outcome × Host :=
  match p with
  | .producer =>
      match Video.ProducerSettings.parse argv env with
      | .error e => (refused e, h)
      | .ok s => finish env (publishOnHost s none elapsed) h
  | .consumer =>
      match Video.ConsumerSettings.parse argv env with
      | .error e => (refused e, h)
      | .ok s => finish env (receiveOnHost s) h

end Program

end SharedRing
