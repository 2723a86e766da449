import SharedRing.Proofs.Channel.Delivery
import SharedRing.Proofs.Confinement
import SharedRing.Proofs.Video.Sizing
import SharedRing.Proofs.Video.Tally

/-!
What a receiver makes of the messages in a channel. It polls until it has counted as many as its
limit says, and a poll that delivers nothing counts nothing, whether there was no message or one
that is too long for a frame (`Receive.Ends`). So of a queue it takes the messages up to the last
one counted and leaves the others, in the ring, for the next receiver.

`Receive.Faces` says which messages a consumer has before it. A poll takes the first of them
(`Receive.Faces.poll_cons`), and the run follows by induction on the queue (`Receive.Faces.ends`).
-/

namespace SharedRing

open Host

/-- Every message takes room in its ring. -/
theorem Ring.length_le_used {q : List Bytes} : q.length ≤ Ring.used q := by
  induction q with
  | nil => exact Nat.le_refl 0
  | cons msg q ih =>
      rw [Ring.used_cons, List.length_cons]
      simp only [Ring.lengthSize]
      omega

namespace Video

namespace Receive

def poll (c : Consumer) (frameSize : Nat) (t : Tally) (h : Host) : Tally × Host :=
  let res := c.read h (Array.replicate frameSize 0)
  account frameSize t res.2 res.1.1 res.1.2

/-- Polling goes on, messages or none, until as many are counted as the limit says. -/
inductive Ends (c : Consumer) (frameSize limit : Nat) : Tally × Host → Tally × Host → Prop
  | reached {t : Tally} {h : Host} (ht : limit ≤ t.received) :
      Ends c frameSize limit (t, h) (t, h)
  | poll {t : Tally} {h : Host} {last : Tally × Host} (ht : t.received < limit)
      (hrest : Ends c frameSize limit (poll c frameSize t h) last) :
      Ends c frameSize limit (t, h) last

variable {c : Consumer} {frameSize limit : Nat} {t : Tally} {h : Host}

theorem keeps_account (frameSize : Nat) (t : Tally) (h : Host) (size : Nat) (out : Bytes) :
    h.Keeps (account frameSize t h size out).2 := by
  rw [account]
  split
  · exact .refl h
  · exact .of_objects rfl (List.Subset.refl _)

theorem poll_of_not_canRead (hc : c.canRead h = false) :
    poll c frameSize t h = (t, h) := by
  cases hb : c.binding with
  | none => simp [poll, account, Consumer.read, hb]
  | some b =>
      simp only [Consumer.canRead, hb, Option.map_some, Option.getD_some] at hc
      have hnone : b.ring.nextLength? (b.memory h) = none := by simpa using hc
      simp only [poll, account, Consumer.read, hb, Ring.read, hnone, if_true, b.setMemory_memory]

/-- The loop that stops when there is no message ends as the one that only stops at the limit,
provided that this one ends. -/
theorem loop_eq_of_ends {first last : Tally × Host} (hends : Ends c frameSize limit first last) :
    loop c frameSize (some limit) first.1 first.2 = last := by
  induction hends with
  | reached ht =>
      rw [loop, if_pos]
      simpa [isReached] using ht
  | @poll t h last ht _ ih =>
      cases hc : c.canRead h with
      | true =>
          rw [loop, if_neg (by simpa [isReached] using ht), dif_pos hc]
          exact ih
      | false => rwa [poll_of_not_canRead hc] at ih

/-! ### A queue of messages -/

/-- In a world that is in order, the consumer is of an object whose messages are `q`. It does not
matter in which slot it is held. -/
structure Faces (first : Nat) (id : ObjectId) (c : Consumer) (h : Host) (q : List Bytes) : Prop where
  world : ∃ w : World, w.Sound first ∧ w.host = h ∧ w.consumers 0 = some c
  first_le : first ≤ id
  object : c.object? = some id
  unread : h.unread id = q

/-- The messages of `q` up to the `n`th that fits a frame, and those behind it. -/
structure Cut (frameSize n : Nat) (q front rest : List Bytes) : Prop where
  split : q = front ++ rest
  fitting : front.countP (fun msg => msg.size ≤ frameSize) = n
  last : ∀ msg, front.getLast? = some msg → msg.size ≤ frameSize

theorem Cut.zero (frameSize : Nat) (q : List Bytes) : Cut frameSize 0 q [] q :=
  ⟨rfl, rfl, by simp⟩

/-- A message in front belongs to the front part; if nothing else does, it must be one that fits. -/
theorem Cut.cons {n : Nat} {q front rest : List Bytes} {msg : Bytes}
    (h : Cut frameSize n q front rest) (hmsg : n = 0 → msg.size ≤ frameSize) :
    Cut frameSize ((msg :: front).countP fun msg => msg.size ≤ frameSize) (msg :: q)
      (msg :: front) rest := by
  refine ⟨by rw [h.split, List.cons_append], rfl, ?_⟩
  intro last hlast
  cases hfront : front with
  | nil =>
      rw [hfront] at hlast
      cases hlast
      apply hmsg
      rw [← h.fitting, hfront, List.countP_nil]
  | cons x front' =>
      rw [hfront] at hlast
      apply h.last
      rwa [hfront]

namespace Faces

variable {first : Nat} {id : ObjectId} {q : List Bytes} {msg : Bytes}

theorem holds (hf : Faces first id c h q) :
    ∃ b, c.binding = some b ∧ b.object? = some id ∧ id < h.objects.size ∧
      b.ring.Holds (h.memory id) q := by
  obtain ⟨⟨w, hs, rfl, hslot⟩, hfirst, hobject, rfl⟩ := hf
  obtain ⟨b, hb, hbid⟩ := Option.bind_eq_some_iff.1 hobject
  have hserves := hs.consumers 0 c b id hslot hb hbid hfirst
  obtain ⟨k, -, hk⟩ := hserves.ring
  exact ⟨b, hb, hbid, hk.lt_size, hserves.holds⟩

/-- What the ring of a consumer holds is what the object has unread. -/
theorem of_holds {w : World} {b : Binding} (hs : w.Sound first) (hslot : w.consumers 0 = some c)
    (hb : c.binding = some b) (hbid : b.object? = some id) (hfirst : first ≤ id)
    (hholds : b.ring.Holds (w.host.memory id) q) : Faces first id c w.host q where
  world := ⟨w, hs, rfl, hslot⟩
  first_le := hfirst
  object := Option.bind_eq_some_iff.2 ⟨b, hb, hbid⟩
  unread := (hs.consumers 0 c b id hslot hb hbid hfirst).holds.drain.symm.trans hholds.drain

theorem isNext (hf : Faces first id c h q) : c.IsNext h q := by
  obtain ⟨b, hb, hbid, -, hholds⟩ := hf.holds
  exact hholds.isNext hb hbid

/-- A poll takes the first message, and counts it if it is no longer than a frame. -/
theorem poll_cons (hf : Faces first id c h (msg :: q)) (frameSize : Nat) (t : Tally) :
    (poll c frameSize t h).1 = t.offer frameSize msg ∧
      Faces first id c (poll c frameSize t h).2 q := by
  obtain ⟨b, hb, hbid, hlt, hholds⟩ := hf.holds
  have hread := hholds.read_cons (Array.replicate frameSize 0)
  rw [Array.size_replicate] at hread
  constructor
  · simp only [poll, Tally.offer, Consumer.read, hb, b.memory_eq hbid, hread]
    split
    · have hpos := hholds.pos msg (by simp)
      have hfront : (msg ++ (Array.replicate frameSize (0 : UInt8)).extract msg.size
          frameSize).extract 0 msg.size = msg := by
        rw [Array.extract_append_left, Array.extract_size]
      simp only [account, if_neg (Nat.ne_of_gt hpos), hfront]
    · rfl
  · obtain ⟨⟨w, hs, rfl, hslot⟩, hfirst, -, -⟩ := hf
    have hstep := hs.step (.read 0 (Array.replicate frameSize 0))
    simp only [World.step, World.taking, hslot] at hstep
    have hkeeps := keeps_account frameSize t (c.read w.host (Array.replicate frameSize 0)).2
      (c.read w.host (Array.replicate frameSize 0)).1.1
      (c.read w.host (Array.replicate frameSize 0)).1.2
    refine of_holds (hstep.keeps hkeeps) hslot hb hbid hfirst ?_
    dsimp only
    rw [hkeeps.memory]
    simp only [Consumer.read, hb, b.memory_eq hbid, b.setMemory_eq hbid]
    rw [Host.memory_setMemory hlt, Ring.read_memory, hholds.nextLength?_cons]
    exact hholds.dropMessage

/-- Polling ends when enough messages fit, with the messages up to the last one that was counted
taken from the front of the queue. -/
theorem ends (hf : Faces first id c h q)
    (hcount : limit ≤ t.received + q.countP (fun msg => msg.size ≤ frameSize)) :
    ∃ front rest h', Cut frameSize (limit - t.received) q front rest ∧
      Ends c frameSize limit (t, h)
        (t.addAll frameSize (front.filter fun msg => msg.size ≤ frameSize), h') ∧
      Faces first id c h' rest := by
  induction q generalizing t h with
  | nil =>
      rw [List.countP_nil, Nat.add_zero] at hcount
      refine ⟨[], [], h, ?_, .reached hcount, hf⟩
      rw [Nat.sub_eq_zero_of_le hcount]
      exact .zero frameSize []
  | cons msg q ih =>
      by_cases ht : limit ≤ t.received
      · refine ⟨[], msg :: q, h, ?_, .reached ht, hf⟩
        rw [Nat.sub_eq_zero_of_le ht]
        exact .zero frameSize (msg :: q)
      · obtain ⟨htally, hfaces⟩ := hf.poll_cons frameSize t
        obtain ⟨front, rest, h', hcut, hends, hrest⟩ :=
          ih (t := t.offer frameSize msg) hfaces (by rwa [Tally.received_offer_add])
        refine ⟨msg :: front, rest, h', ?_, ?_, hrest⟩
        · have hsucc := t.received_offer_le frameSize msg
          have hsum := t.received_offer_add frameSize msg front
          have hfitting := hcut.fitting
          have hn : (msg :: front).countP (fun msg => msg.size ≤ frameSize) =
              limit - t.received := by omega
          rw [← hn]
          apply hcut.cons
          -- nothing is counted behind this message, so it is the one that reaches the limit
          intro hzero
          apply Nat.le_of_not_lt
          intro hlong
          rw [Tally.offer_of_lt hlong] at hzero
          omega
        · rw [Tally.addAll_filter_cons]
          rw [← htally] at hends ⊢
          exact .poll (Nat.lt_of_not_le ht) hends

/-- A name of an object with a ring in it can be attached to, and then the consumer has before it
what is unread. -/
theorem of_attach {w : World} {name n : String} (hs : w.Sound first) (hfirst : first ≤ id)
    (hname : Name.normalize name = .ok n) (hfind : w.host.find? n = some id) :
    ∃ c h', Consumer.attach w.host name 0 = (.ok c, h') ∧
      c.capacity = ((w.host.memory id).word (Header.capacityAt 0)).toNat ∧
      Faces first id c h' (w.host.unread id) := by
  obtain ⟨-, hring⟩ := hs.names _ (Host.mem_names_of_find? hfind)
  obtain ⟨hadmitted, k, hk⟩ := hring hfirst
  obtain ⟨b, h', hattach, hon, hrole, hkeeps⟩ := Consumer.attach_of_find? hname hadmitted hfind
    hk.sound.capacity hk.fits hk.held_lt
  have hserves := hk.serves hon
  have hs' := (hs.setConsumer 0 (some ⟨n, some b⟩) (by
    rintro _ _ i ⟨⟩ ⟨⟩ hi _
    rw [hon.object] at hi
    cases hi
    rw [← hrole]
    exact hserves)).keeps hkeeps
  refine ⟨⟨n, some b⟩, h', hattach, ?_, ?_⟩
  · rw [hon.published, b.ring.capacity.word_toNat]
    rfl
  · refine of_holds hs' (by simp only [Function.update_self]) rfl hon.object hfirst ?_
    dsimp only
    rw [hkeeps.memory]
    exact hserves.holds

/-- A consumer that goes away, and what is reported, leave the messages to the next one. -/
theorem keeps {h' : Host} (hf : Faces first id c h q) (hk : h.Keeps h') :
    Faces first id c h' q := by
  obtain ⟨b, hb, hbid, -, hholds⟩ := hf.holds
  obtain ⟨⟨w, hs, rfl, hslot⟩, hfirst, -, -⟩ := hf
  refine of_holds (hs.keeps hk) hslot hb hbid hfirst ?_
  dsimp only
  rwa [hk.memory]

end Faces

end Receive

/-! ### The whole run -/

def Receive.opened (s : ConsumerSettings) : Notice := .connected s!"channel '{s.name}'"

/-- A run on a channel that has room for a frame is the loop, if the loop ends. -/
theorem receive_of_ends {s : ConsumerSettings} {limit : Nat} {h h₁ h₂ : Host} {c : Consumer}
    {t : Receive.Tally} (hvalid : s.validate = .ok ()) (hlimit : s.maxFrames = some limit)
    (hattach : Consumer.attach h s.name 0 = (.ok c, h₁)) (hcapacity : s.frameSize ≤ c.capacity)
    (hends : Receive.Ends c s.frameSize limit (.start, h₁.reportAll [Receive.opened s]) (t, h₂)) :
    ∃ h', receive s false h = (.ok t.stats, h') ∧ h₂.Keeps h' := by
  have hloop := Receive.loop_eq_of_ends hends
  simp only [Receive.opened] at hloop
  refine ⟨_, ?_, (keeps_report h₂ (.receivedAll t.received t.sequence.gaps t.bad)).trans
    (Consumer.keeps_close c _)⟩
  simp only [receive, hvalid, hattach, waitFor, Wait.run, Receive.onChannel,
    if_neg (Nat.not_lt_of_le hcapacity), hlimit, Bool.false_eq_true, if_false, hloop]
  rfl

/-- What a receiver with this limit makes of the messages `q`: those in `front` are taken, those in
`rest` are left. -/
structure Accounts (frameSize limit : Nat) (q front rest : List Bytes) (stats : ReceiveStats) :
    Prop extends Receive.Cut frameSize limit q front rest where
  received : stats.received = limit
  bad : stats.bad =
    front.countP fun msg => msg.size ≤ frameSize ∧ ¬Frame.IsGood frameSize msg
  gaps : stats.gaps = Sequence.start.totalSkipped
    ((front.filter fun msg => Frame.IsGood frameSize msg).map Frame.stampedIndex)
  /-- The count of the gaps stays within its 64 bits. -/
  gaps_lt : stats.gaps < 18446744073709551616

/-- The tally of the messages that fit accounts for all that were taken. -/
theorem accounts_addAll {frameSize limit : Nat} {q front rest : List Bytes}
    (hsize : Frame.indexSize < frameSize) (hcut : Receive.Cut frameSize limit q front rest)
    (hlength : q.length ≤ 2147483648) :
    Accounts frameSize limit q front rest
      (Receive.Tally.start.addAll frameSize
        (front.filter fun msg => msg.size ≤ frameSize)).stats := by
  have hgood : (front.filter fun msg => msg.size ≤ frameSize).filter
        (fun msg => Frame.IsGood frameSize msg) =
      front.filter fun msg => Frame.IsGood frameSize msg := by
    rw [List.filter_filter]
    apply List.filter_congr
    intro msg _
    by_cases h : Frame.IsGood frameSize msg
    · simp [h, Nat.le_of_eq h.1]
    · simp [h]
  have hlt : Sequence.start.totalSkipped
      ((front.filter fun msg => Frame.IsGood frameSize msg).map Frame.stampedIndex) <
        2 ^ 64 := by
    apply Sequence.start.totalSkipped_lt
    have hfilter := List.length_filter_le (fun msg => Frame.IsGood frameSize msg) front
    rw [hcut.split, List.length_append] at hlength
    rw [List.length_map]
    omega
  have hgaps : (Receive.Tally.start.addAll frameSize
        (front.filter fun msg => msg.size ≤ frameSize)).stats.gaps =
      Sequence.start.totalSkipped
        ((front.filter fun msg => Frame.IsGood frameSize msg).map Frame.stampedIndex) := by
    rw [Receive.Tally.stats, Receive.Tally.sequence_addAll hsize, hgood, Receive.Tally.start,
      Sequence.gaps_after_start, Nat.mod_eq_of_lt hlt]
  refine ⟨hcut, ?_, ?_, hgaps, hgaps ▸ hlt⟩
  · rw [Receive.Tally.stats, Receive.Tally.received_addAll, ← hcut.fitting,
      List.countP_eq_length_filter]
    exact Nat.zero_add _
  · rw [Receive.Tally.stats, Receive.Tally.bad_addAll hsize, List.countP_filter]
    refine (Nat.zero_add _).trans (List.countP_congr ?_)
    intro msg _
    simp [and_comm]

/-- Whatever has been done on a host, a receiver of a channel created by then, with room for a frame
and with as many messages that fit one as the limit says, polls until that many are counted and then
ends. Longer messages in front of the last of these are passed over without being counted. The
counts are those of `Accounts`; what is behind stays in the ring, and whoever attaches to the
channel goes on there. -/
theorem receive_accounts {h : Host} (hnames : h.NamesExist) {actions : List Action} {w : World}
    (hw : w = (World.start h).run actions) {id : ObjectId} (hid : h.objects.size ≤ id)
    {s : ConsumerSettings} {n : String} {limit : Nat} (hname : Name.normalize s.name = .ok n)
    (hfind : w.host.find? n = some id) (hvalid : s.validate = .ok ())
    (hlimit : s.maxFrames = some limit)
    (hcapacity : s.frameSize ≤ ((w.host.memory id).word (Header.capacityAt 0)).toNat)
    (hcount : limit ≤ (w.host.unread id).countP fun msg => msg.size ≤ s.frameSize) :
    ∃ stats h' front rest,
      receive s false w.host = (.ok stats, h') ∧
      (∃ c h₁ last, Consumer.attach w.host s.name 0 = (.ok c, h₁) ∧
        Receive.Ends c s.frameSize limit (.start, h₁.reportAll [Receive.opened s]) last ∧
        stats = last.1.stats) ∧
      Accounts s.frameSize limit (w.host.unread id) front rest stats ∧
      h'.unread id = rest ∧
      ∃ c' h'', Consumer.attach h' s.name 0 = (.ok c', h'') ∧ c'.object? = some id ∧
        h''.unread id = rest ∧ c'.IsNext h'' rest := by
  have hs : w.Sound h.objects.size := by
    rw [hw]
    exact (World.sound_start hnames).run actions
  have hsize := Geometry.indexSize_lt_frameSize hvalid
  obtain ⟨c, h₁, hattach, hc, hfaces⟩ := Receive.Faces.of_attach hs hid hname hfind
  have hreport : h₁.Keeps (h₁.reportAll [Receive.opened s]) :=
    .of_objects rfl (List.Subset.refl _)
  have hopened := hfaces.keeps hreport
  obtain ⟨front, rest, h₂, hcut, hends, hrest⟩ :=
    hopened.ends (t := .start) (Nat.le_trans hcount (Nat.le_add_left ..))
  obtain ⟨h', hrun, hkeeps⟩ := receive_of_ends hvalid hlimit hattach (by rwa [hc]) hends
  have hleft := hrest.keeps hkeeps
  have hconfined := (confined_receive s false w.host none).lookup (objectName n) (by simp)
  rw [hrun] at hconfined
  have hlength : (w.host.unread id).length ≤ 2147483648 := by
    obtain ⟨b, -, -, -, hholds⟩ := hfaces.holds
    exact Nat.le_trans Ring.length_le_used (Nat.le_trans hholds.used_le b.ring.capacity.size_le)
  refine ⟨_, _, front, rest, hrun, ⟨c, h₁, _, hattach, hends, rfl⟩,
    accounts_addAll hsize hcut hlength, hleft.unread, ?_⟩
  obtain ⟨w', hs', hhost, -⟩ := hleft.world
  have hfind' : w'.host.find? n = some id := by
    rw [hhost]
    exact hconfined.trans hfind
  obtain ⟨c', h'', hattach', -, hfaces'⟩ := Receive.Faces.of_attach hs' hid hname hfind'
  rw [hhost] at hattach' hfaces'
  rw [hleft.unread] at hfaces'
  exact ⟨c', h'', hattach', hfaces'.object, hfaces'.unread, hfaces'.isNext⟩

/-- Frames of six bytes. The first message is a good one, the second is too long, the third ends
with a wrong byte, the fourth is too short, and the fifth skips two frames and is the fourth that
fits. The sixth is left. -/
theorem receive_accounts_mixed :
    let q : List Bytes :=
      [#[7, 0, 0, 0, 7, 7], #[1, 1, 1, 1, 1, 1, 1, 1, 1], #[8, 0, 0, 0, 8, 9], #[1, 2],
        #[10, 0, 0, 0, 10, 10], #[11, 0, 0, 0, 11, 11]]
    let w := (World.start .empty).run (.create 0 "v" 64 :: q.map (.write 0))
    let s : ConsumerSettings := ⟨"/v", ⟨2, 1⟩, some 4, 100⟩
    Host.empty.NamesExist ∧ Host.empty.objects.size ≤ 0 ∧ Name.normalize s.name = .ok "/v" ∧
      w.host.find? "/v" = some 0 ∧ s.validate = .ok () ∧ s.maxFrames = some 4 ∧
      s.frameSize ≤ ((w.host.memory 0).word (Header.capacityAt 0)).toNat ∧
      w.host.unread 0 = q ∧ 4 ≤ q.countP (fun msg => msg.size ≤ s.frameSize) ∧
      ∃ h', receive s false w.host = (.ok ⟨4, 2, 2⟩, h') ∧
        h'.unread 0 = [#[11, 0, 0, 0, 11, 11]] := by
  intro q w s
  have hnames : Host.empty.NamesExist := by
    rintro _ ⟨⟩
  have hname : Name.normalize s.name = .ok "/v" := by decide +kernel
  have hfind : w.host.find? "/v" = some 0 := by decide +kernel
  have hvalid : s.validate = .ok () := by decide +kernel
  have hcapacity : s.frameSize ≤ ((w.host.memory 0).word (Header.capacityAt 0)).toNat := by
    decide +kernel
  have hunread : w.host.unread 0 = q := by
    have hall : w.accepted 0 = q := by decide +kernel
    have hs := (World.sound_start hnames).run (.create 0 "v" 64 :: q.map (.write 0))
    rcases hs.objects 0 (Nat.le_refl 0) with hblank | ⟨c, hc⟩
    · have hnone : w.accepted 0 = [] := congrArg Traffic.accepted hblank
      rw [hall] at hnone
      exact absurd hnone (List.cons_ne_nil _ _)
    · exact hc.unread.1.symm.trans hall
  have hcount : 4 ≤ q.countP (fun msg => msg.size ≤ s.frameSize) := by decide +kernel
  obtain ⟨stats, h', front, rest, hrun, -, haccounts, hrest, -⟩ :=
    receive_accounts hnames rfl (Nat.le_refl 0) hname hfind hvalid rfl hcapacity
      (by rw [hunread]; exact hcount)
  obtain ⟨⟨hsplit, hfitting, -⟩, hreceived, hbad, hgaps, -⟩ := haccounts
  rw [hunread] at hsplit
  -- only the first five messages have four among them that fit
  have hfront : front = q.take front.length := by rw [hsplit, List.take_left]
  have hlength : front.length = 5 := by
    have hle : front.length < 7 := by
      have hsum := congrArg List.length hsplit
      rw [List.length_append] at hsum
      simp only [q, List.length_cons, List.length_nil] at hsum
      omega
    rw [hfront] at hfitting
    exact (by decide +kernel : ∀ k < 7,
      (q.take k).countP (fun msg => msg.size ≤ s.frameSize) = 4 → k = 5) _ hle hfitting
  have hstats : stats = ⟨4, 2, 2⟩ := by
    obtain ⟨received, gaps, bad⟩ := stats
    rw [hlength] at hfront
    rw [hfront] at hbad hgaps
    have hbad' : (q.take 5).countP
        (fun msg => msg.size ≤ s.frameSize ∧ ¬Frame.IsGood s.frameSize msg) = 2 := by
      decide +kernel
    have hgaps' : Sequence.start.totalSkipped (((q.take 5).filter fun msg =>
        Frame.IsGood s.frameSize msg).map Frame.stampedIndex) = 2 := by
      decide +kernel
    rw [hbad'] at hbad
    rw [hgaps'] at hgaps
    dsimp only at hreceived hbad hgaps
    rw [hreceived, hbad, hgaps]
  have hleft : rest = q.drop 5 := by
    rw [hsplit, ← hlength, List.drop_left]
  refine ⟨hnames, Nat.le_refl 0, hname, hfind, hvalid, rfl, hcapacity, hunread, hcount, h', ?_, ?_⟩
  · rw [hrun, hstats]
  · rw [hrest, hleft]
    rfl

end Video

end SharedRing
