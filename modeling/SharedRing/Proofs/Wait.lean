import Mathlib.Data.ENat.Lattice
import SharedRing.Wait

/-!
How a wait ends. The calls are numbered from one; what each of them gives is a function of its
number, and so is whether a request to stop is there at its end. A wait has ended with a result
when the calls it made settle it, whatever calls could follow (`Wait.Ends`); one that is never
stopped and never succeeds does not end.

A wait ends with the first call that succeeds or at whose end the request is there, and success
comes first (`waitFor_ends`).
-/

namespace SharedRing

inductive StopRequest where
  | fromStart
  | during (call : Nat) (call_pos : 0 < call)
  | never

namespace StopRequest

def isThere : StopRequest → Nat → Bool
  | fromStart, _ => true
  | during call _, k => call ≤ k
  | never, _ => false

/-- The call with which a wait gives up if it has not succeeded by then. -/
def lastCall : StopRequest → ENat
  | fromStart => 1
  | during call _ => call
  | never => ⊤

theorem one_le_lastCall (request : StopRequest) : 1 ≤ request.lastCall := by
  cases request with
  | fromStart => exact le_refl _
  | during call call_pos => exact Nat.one_le_cast.2 call_pos
  | never => exact le_top

theorem isThere_iff {request : StopRequest} {k : Nat} (hk : 0 < k) :
    request.isThere k = true ↔ request.lastCall ≤ k := by
  cases request with
  | fromStart => exact iff_of_true rfl (Nat.one_le_cast.2 hk)
  | during call _ => simp [isThere, lastCall]
  | never => simp [isThere, lastCall]

end StopRequest

namespace Wait

variable {α : Type} {resource : String} {told : Bool} {a first last : Attempt α}
  {made rest : List (Attempt α)} {x : Option α} {closing : Notice}

/-! ### Calls -/

/-- The resource that a call ends the wait with, and what is reported at the end; `none` when the
wait goes on. -/
def ending? (resource : String) (a : Attempt α) : Option (Option α × Notice) :=
  match a.outcome with
  | .ok r => some (some r, .connected resource)
  | .error _ => if a.stop then some (none, .stoppedWaiting resource) else none

def report (resource : String) (a : Attempt α) : List Notice :=
  match a.outcome with
  | .ok _ => []
  | .error reason => [.waiting resource reason]

theorem run_cons_of_ending (h : ending? resource a = some (x, closing)) :
    run resource told (a :: rest) =
      ⟨x, 1, (if told then [] else report resource a) ++ [closing]⟩ := by
  cases hout : a.outcome with
  | ok r =>
      simp only [ending?, hout, Option.some.injEq, Prod.mk.injEq] at h
      obtain ⟨rfl, rfl⟩ := h
      simp [run, report, hout]
  | error reason =>
      simp only [ending?, hout, Option.ite_none_right_eq_some, Option.some.injEq,
        Prod.mk.injEq] at h
      obtain ⟨hstop, rfl, rfl⟩ := h
      simp [run, report, hout, hstop]

theorem run_cons_of_none (h : ending? resource a = none) :
    run resource told (a :: rest) =
      ⟨(run resource true rest).resource?, (run resource true rest).calls + 1,
        (if told then [] else report resource a) ++ (run resource true rest).notices⟩ := by
  cases hout : a.outcome with
  | ok r => simp [ending?, hout] at h
  | error reason =>
      have hstop : a.stop = false := by simpa [ending?, hout] using h
      simp [run, report, hout, hstop]

/-- Calls with which a wait goes on are counted, and nothing more is reported of them after the
first. -/
theorem run_append_of_none (h : ∀ a ∈ made, ending? resource a = none) :
    run resource true (made ++ rest) =
      ⟨(run resource true rest).resource?, (run resource true rest).calls + made.length,
        (run resource true rest).notices⟩ := by
  induction made with
  | nil => rfl
  | cons a made ih =>
      rw [List.cons_append, run_cons_of_none (h a List.mem_cons_self),
        ih fun b hb => h b (List.mem_cons_of_mem a hb)]
      rfl

/-- Of what follows the call that ends the wait, nothing counts. -/
theorem waitFor_append_cons (later : List (Attempt α))
    (hfirst : (made ++ [last]).head? = some first)
    (hmade : ∀ a ∈ made, ending? resource a = none)
    (hlast : ending? resource last = some (x, closing)) :
    waitFor resource (made ++ last :: later) =
      ⟨x, made.length + 1, report resource first ++ [closing]⟩ := by
  cases made with
  | nil =>
      cases hfirst
      exact run_cons_of_ending hlast
  | cons a made =>
      rw [List.cons_append, List.head?_cons, Option.some.injEq] at hfirst
      subst hfirst
      rw [waitFor, List.cons_append, run_cons_of_none (hmade a List.mem_cons_self),
        run_append_of_none fun b hb => hmade b (List.mem_cons_of_mem a hb),
        run_cons_of_ending hlast]
      simp [Nat.add_comm]

theorem calls_run_of_none (h : ∀ a ∈ made, ending? resource a = none) :
    (run resource told made).calls = made.length := by
  induction made generalizing told with
  | nil => rfl
  | cons a made ih =>
      rw [run_cons_of_none (h a List.mem_cons_self), ih fun b hb => h b (List.mem_cons_of_mem a hb),
        List.length_cons]

/-! ### Waits -/

variable {connect : Nat → Except String α} {request : StopRequest}

def attempt (connect : Nat → Except String α) (request : StopRequest) (k : Nat) : Attempt α :=
  ⟨connect k, request.isThere k⟩

def attempts (connect : Nat → Except String α) (request : StopRequest) (n : Nat) :
    List (Attempt α) :=
  (List.range' 1 n).map (attempt connect request)

@[simp] theorem attempts_length (n : Nat) : (attempts connect request n).length = n := by
  simp [attempts]

theorem attempts_succ (n : Nat) :
    attempts connect request (n + 1) =
      attempts connect request n ++ [attempt connect request (n + 1)] := by
  rw [attempts, List.range'_1_concat, List.map_append, Nat.add_comm 1 n]
  rfl

theorem ending?_of_mem_attempts {n : Nat} {a : Attempt α}
    (h : ∀ k, 0 < k → k ≤ n → ending? resource (attempt connect request k) = none)
    (ha : a ∈ attempts connect request n) : ending? resource a = none := by
  obtain ⟨k, hk, rfl⟩ := List.mem_map.1 ha
  rw [List.mem_range'_1] at hk
  exact h k (by omega) (by omega)

/-- As many calls as the result counts lead to it, and no call that could follow is made. -/
def Ends (resource : String) (connect : Nat → Except String α) (request : StopRequest)
    (res : Result α) : Prop :=
  ∀ later, waitFor resource (attempts connect request res.calls ++ later) = res

theorem ends_of_ending {n : Nat}
    (hmade : ∀ k, 0 < k → k ≤ n → ending? resource (attempt connect request k) = none)
    (hlast : ending? resource (attempt connect request (n + 1)) = some (x, closing)) :
    Ends resource connect request
      ⟨x, n + 1, report resource (attempt connect request 1) ++ [closing]⟩ := by
  intro later
  have hfirst : (attempts connect request n ++ [attempt connect request (n + 1)]).head? =
      some (attempt connect request 1) := by
    rw [← attempts_succ]
    rfl
  have hends := waitFor_append_cons later hfirst (fun a => ending?_of_mem_attempts hmade) hlast
  rw [attempts_length] at hends
  rw [attempts_succ, List.append_assoc, List.singleton_append, hends]

/-- A wait that goes on after every call has no end. -/
theorem not_ends_of_none (h : ∀ k, 0 < k → ending? resource (attempt connect request k) = none)
    (res : Result α) : ¬Ends resource connect request res := by
  intro hends
  have hcalls (n : Nat) : (waitFor resource (attempts connect request n)).calls = n := by
    rw [waitFor, calls_run_of_none fun a => ending?_of_mem_attempts fun k hk _ => h k hk,
      attempts_length]
  -- one more call would count
  have hmore := hends [attempt connect request (res.calls + 1)]
  rw [← attempts_succ] at hmore
  have hcount := hcalls (res.calls + 1)
  rw [hmore] at hcount
  omega

section Ended

variable {f : Nat} {r : α} (hfails : ∀ k, 0 < k → k ≤ f → ∃ reason, connect k = .error reason)

include hfails

theorem ending?_of_lt_lastCall {k : Nat} (hpos : 0 < k) (hle : k ≤ f)
    (hlt : (k : ENat) < request.lastCall) :
    ending? resource (attempt connect request k) = none := by
  obtain ⟨reason, hreason⟩ := hfails k hpos hle
  have hthere : request.isThere k = false := by
    rw [Bool.eq_false_iff, Ne, StopRequest.isThere_iff hpos]
    exact not_le_of_gt hlt
  simp [ending?, attempt, hreason, hthere]

/-- The call that ends the wait is the one that succeeds or the one at whose end the request is
there first; if it is both, it has succeeded. -/
theorem exists_ending (resource : String) (request : StopRequest)
    (hok : connect (f + 1) = .ok r) :
    ∃ n x closing, n ≤ f ∧
      ((n + 1 : Nat) : ENat) = min ((f + 1 : Nat) : ENat) request.lastCall ∧
      (x, closing) =
        (if ((f + 1 : Nat) : ENat) ≤ request.lastCall then (some r, .connected resource)
          else (none, .stoppedWaiting resource)) ∧
      ending? resource (attempt connect request (n + 1)) = some (x, closing) := by
  rcases le_or_gt ((f + 1 : Nat) : ENat) request.lastCall with hsucceeds | hstops
  · refine ⟨f, _, _, Nat.le_refl f, (min_eq_left hsucceeds).symm, (if_pos hsucceeds).symm, ?_⟩
    simp [ending?, attempt, hok]
  · obtain ⟨s, hs⟩ := ENat.ne_top_iff_exists.1 (ne_top_of_lt hstops)
    have hpos : 1 ≤ s := Nat.one_le_cast.1 (hs ▸ request.one_le_lastCall)
    have hlt : s < f + 1 := Nat.cast_lt.1 (hs ▸ hstops)
    obtain ⟨n, rfl⟩ := Nat.exists_eq_add_of_le' hpos
    obtain ⟨reason, hreason⟩ := hfails (n + 1) hpos (Nat.le_of_lt_succ hlt)
    have hthere : request.isThere (n + 1) = true := by
      rw [StopRequest.isThere_iff hpos, hs]
    refine ⟨n, _, _, by omega, ?_, (if_neg (not_le_of_gt hstops)).symm, ?_⟩
    · rw [hs, min_eq_right (le_of_lt hstops)]
    · simp [ending?, attempt, hreason, hthere]

/-- A wait whose calls fail `f` times before one succeeds ends with that call, or with the one
during which the request to stop comes if that is an earlier one; with the first if the request is
there from the start. In a tie the call that succeeded counts. So its resource is what the wait
gives, and what is reported at the end, or it gives none and giving up is reported. In front of
that stands the first failure, if there was one, and nothing else. -/
theorem waitFor_ends (resource : String) (request : StopRequest)
    (hok : connect (f + 1) = .ok r) :
    ∃ res closing, Ends resource connect request res ∧
      (res.calls : ENat) = min ((f + 1 : Nat) : ENat) request.lastCall ∧
      (res.resource?, closing) =
        (if ((f + 1 : Nat) : ENat) ≤ request.lastCall then (some r, .connected resource)
          else (none, .stoppedWaiting resource)) ∧
      (0 < f → ∃ reason, connect 1 = .error reason ∧
        res.notices = [.waiting resource reason, closing]) ∧
      (f = 0 → res.notices = [closing]) := by
  obtain ⟨n, x, closing, hle, hcalls, hresult, hlast⟩ := exists_ending hfails resource request hok
  have hmade : ∀ k, 0 < k → k ≤ n → ending? resource (attempt connect request k) = none := by
    intro k hpos hkn
    refine ending?_of_lt_lastCall hfails hpos (Nat.le_trans hkn hle) ?_
    calc (k : ENat) < ((n + 1 : Nat) : ENat) := Nat.cast_lt.2 (Nat.lt_succ_of_le hkn)
      _ ≤ request.lastCall := hcalls ▸ min_le_right _ _
  refine ⟨_, closing, ends_of_ending hmade hlast, hcalls, hresult, ?_, ?_⟩
  · intro hpos
    obtain ⟨reason, hreason⟩ := hfails 1 Nat.one_pos hpos
    exact ⟨reason, hreason, by simp [report, attempt, hreason]⟩
  · rintro rfl
    simp [report, attempt, hok]

end Ended

/-- The request comes during the call that succeeds, the third one, and the resource is not lost;
the second failure is another than the first and is not reported. -/
theorem waitFor_ends_tie :
    (∀ k, 0 < k → k ≤ 2 → ∃ reason,
      (if k < 3 then .error s!"absent {k}" else .ok k : Except String Nat) = .error reason) ∧
    ∃ res, Ends "ring" (fun k => if k < 3 then .error s!"absent {k}" else .ok k)
        (.during 3 (by decide)) res ∧
      res.calls = 3 ∧ res.resource? = some 3 ∧
      res.notices = [.waiting "ring" "absent 1", .connected "ring"] := by
  have hfails : ∀ k, 0 < k → k ≤ 2 → ∃ reason,
      (if k < 3 then .error s!"absent {k}" else .ok k : Except String Nat) = .error reason :=
    fun k _ hk => ⟨_, if_pos (by omega)⟩
  obtain ⟨res, closing, hends, hcalls, hresult, hfailed, -⟩ :=
    waitFor_ends hfails "ring" (.during 3 (by decide)) rfl
  have hthree : ((2 + 1 : Nat) : ENat) ≤ (StopRequest.during 3 (by decide)).lastCall := le_refl _
  rw [min_eq_left hthree, Nat.cast_inj] at hcalls
  rw [if_pos hthree, Prod.mk.injEq] at hresult
  obtain ⟨hresource, rfl⟩ := hresult
  obtain ⟨reason, hreason, hnotices⟩ := hfailed (by decide)
  cases hreason
  exact ⟨hfails, res, hends, hcalls, hresource, hnotices⟩

end Wait

end SharedRing
