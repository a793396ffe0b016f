import PeekRelay.Proofs.Feed
import PeekRelay.Proofs.Intake
import PeekRelay.Proofs.Transparency
import PeekRelay.Tap.Whole
/-!
# Handing a connection on

A sniffed connection can be handed on in two ways: the tap is stopped and read from, or it is taken
apart into its stream and the bytes that wait. The reader of the stopped tap gets the waiting bytes
and after them what a reader of the stream itself would get, with the same end.
-/
namespace PeekRelay

def Call.onStream {σ : Type} [ByteStream σ] (c : Call) (s : σ) : c.Response × σ :=
  (c.respond (c.ask s).answer, (c.ask s).next)

namespace Trace

variable {σ : Type}

/-- How reads with these buffers go on from a stopped tap with these parts: the first of them, no
more than it takes to hand out the waiting bytes, are served from the queue, and the others are made
as if on the stream itself. -/
structure Handover [ByteStream σ] (parts : σ × Bytes) (intakes : List Intake) (before : List Entry)
    (haul : Haul (Trace σ)) (replays lives : List Entry) : Prop where
  entries : haul.source.entries = before ++ (replays ++ lives)
  calls : (replays ++ lives).map Entry.call <+: intakes.map Intake.call
  replayed : ∀ e ∈ replays, e.replayed = true ∧ e.forwarded = [] ∧ e.handed ≠ []
  live : ∀ e ∈ lives, e.replayed = false
  needed : ∀ j < replays.length, Intake.rooms (intakes.take j) < parts.2.length
  enough : parts.2.length ≤ Intake.rooms (intakes.take replays.length) ∨
    replays.length = intakes.length
  alike : haul.map (fun r => r.tap.inner.stream) =
    (gather Call.onStream (intakes.drop replays.length) parts.1).behind
      (parts.2.take (Intake.rooms (intakes.take replays.length)))

variable [ByteStream σ] (env : Surroundings) {r : Trace σ}

namespace Handover

variable {inner : σ} {waiting : Bytes} {intakes : List Intake} {before : List Entry}
  {haul : Haul (Trace σ)} {replays lives : List Entry}

private theorem cons {i : Intake} {e : Entry} (hcall : e.call = i.call)
    (hreplayed : e.replayed = true ∧ e.forwarded = [] ∧ e.handed ≠ []) (hwaits : waiting ≠ [])
    (h : Handover (inner, waiting.drop i.call.room) intakes (before ++ [e]) haul replays lives) :
    Handover (inner, waiting) (i :: intakes) before (haul.behind (waiting.take i.call.room))
      (e :: replays) lives := by
  constructor
  case entries =>
    refine h.entries.trans ?_
    rw [List.append_assoc]
    rfl
  case calls =>
    rw [List.cons_append, List.map_cons, List.map_cons, hcall]
    exact List.cons_prefix_cons.mpr ⟨rfl, h.calls⟩
  case replayed =>
    intro e' he'
    rcases List.mem_cons.mp he' with rfl | he'
    · exact hreplayed
    · exact h.replayed e' he'
  case live => exact h.live
  case needed =>
    intro j hj
    cases j with
    | zero => exact List.length_pos_iff.mpr hwaits
    | succ j =>
      have hrest := h.needed j (Nat.lt_of_succ_lt_succ hj)
      simp only [List.length_drop] at hrest
      rw [List.take_succ_cons, Intake.rooms_cons]
      change _ < waiting.length
      omega
  case enough =>
    rw [List.length_cons, List.take_succ_cons, Intake.rooms_cons, List.length_cons]
    refine h.enough.imp ?_ (congrArg Nat.succ)
    intro hrest
    simp only [List.length_drop] at hrest
    change waiting.length ≤ _
    omega
  case alike =>
    rw [List.length_cons, List.take_succ_cons, Intake.rooms_cons, List.drop_succ_cons,
      Haul.map_behind, h.alike, Haul.behind_behind, ← List.take_add]

private theorem bytes_of_closing (h : Handover (inner, waiting) intakes before haul replays lives)
    (hclosing : haul.closing ≠ none) : haul.bytes =
      waiting ++ (gather Call.onStream (intakes.drop replays.length) inner).bytes := by
  have hsame : haul.closing =
      (gather Call.onStream (intakes.drop replays.length) inner).closing :=
    congrArg (fun h => Haul.closing h) h.alike
  have hbytes : haul.bytes = waiting.take (Intake.rooms (intakes.take replays.length)) ++
      (gather Call.onStream (intakes.drop replays.length) inner).bytes :=
    congrArg (fun h => Haul.bytes h) h.alike
  rcases h.enough with henough | hall
  · rw [List.take_of_length_le henough] at hbytes
    exact hbytes
  · rw [hall, List.drop_length] at hsame
    exact absurd hsame hclosing

end Handover

section Emptied

/-- Nothing comes between the reader of such a tap and the stream. -/
structure Emptied (r : Trace σ) : Prop where
  stopped : r.tap.monitor.sniffing = false
  waiting : r.tap.replay.waiting = []

namespace Emptied

omit [ByteStream σ] in
private theorem isReplayed_eq_false (h : Emptied r) (c : Call) : c.isReplayed r.tap = false := by
  cases hreplayed : c.isReplayed r.tap with
  | false => rfl
  | true => exact absurd h.waiting (Call.waiting_of_isReplayed hreplayed)

private theorem call (h : Emptied r) (c : Call) : Emptied (r.call env c).2 := by
  refine ⟨Call.onTap_stopped env h.stopped, ?_⟩
  have hreplay := (c.onTap_forwarded env r.tap (h.isReplayed_eq_false c)).replay
  rw [h.stopped, if_neg Bool.false_ne_true] at hreplay
  exact (congrArg ReplayQueue.waiting hreplay).trans h.waiting

private theorem onStream_eq (h : Emptied r) (c : Call) : c.onStream r.tap.inner.stream =
    ((r.call env c).1, (r.call env c).2.tap.inner.stream) := by
  obtain ⟨hresponse, hinner, -, -⟩ := c.onTap_forwarded env r.tap (h.isReplayed_eq_false c)
  have hnext := congrArg Logged.stream hinner
  rw [Call.onStream, Call.ask_stream]
  exact Prod.ext hresponse.symm hnext.symm

private theorem entries_makeAll (h : Emptied r) (made : List Intake) :
    ∃ lives, (makeAll (Trace.call env) made r).entries = r.entries ++ lives ∧
      lives.map Entry.call = made.map Intake.call ∧ ∀ e ∈ lives, e.replayed = false := by
  induction made generalizing r with
  | nil => exact ⟨[], (List.append_nil _).symm, rfl, fun _ he => absurd he List.not_mem_nil⟩
  | cons i made ih =>
    obtain ⟨lives, hentries, hcalls, hlive⟩ := ih (h.call env i.call)
    refine ⟨entry env i.call r.tap :: lives, ?_, congrArg (i.call :: ·) hcalls, ?_⟩
    · refine hentries.trans ?_
      exact List.append_assoc r.entries [_] lives
    · intro e he
      rcases List.mem_cons.mp he with rfl | he
      · exact h.isReplayed_eq_false i.call
      · exact hlive e he

private theorem handover (h : Emptied r) (intakes : List Intake) : ∃ lives,
    Handover (r.tap.inner.stream, r.tap.replay.waiting) intakes r.entries
      (gather (Trace.call env) intakes r) [] lives := by
  obtain ⟨made, hmade, hsource⟩ := gather_source (Trace.call env) intakes r
  obtain ⟨lives, hentries, hcalls, hlive⟩ := h.entries_makeAll env made
  refine ⟨lives, ?_⟩
  constructor
  case entries => rw [hsource, hentries, List.nil_append]
  case calls =>
    rw [List.nil_append, hcalls]
    exact hmade.map Intake.call
  case replayed => exact fun _ he => absurd he List.not_mem_nil
  case live => exact hlive
  case needed => exact fun j hj => absurd hj (Nat.not_lt_zero j)
  case enough =>
    rw [h.waiting]
    exact .inl (Nat.zero_le _)
  case alike =>
    rw [h.waiting, List.take_nil]
    exact (gather_map intakes (fun i _ hr => hr.call env i.call)
      (fun r : Trace σ => r.tap.inner.stream) (fun i _ hr => hr.onStream_eq env i.call) h).symm

end Emptied

end Emptied

section Stopped

private theorem gather_replayed (i : Intake) (rest : List Intake)
    (hreplayed : i.call.isReplayed r.tap = true) :
    gather (Trace.call env) (i :: rest) r =
      (gather (Trace.call env) rest (r.call env i.call).2).behind
        (r.tap.replay.waiting.take i.call.room) := by
  have houtcome : i.call.outcome (r.call env i.call).1 = _ :=
    i.call.outcome_replayed env r.tap hreplayed
  have hfront := i.take_ne_nil (Call.waiting_of_isReplayed hreplayed)
  rw [gather_open rest ((congrArg Upshot.closing? houtcome).trans (Upshot.closing?_moved hfront)),
    houtcome]
  exact congrArg (fun waits => { Haul.behind _ _ with waits }) (Nat.zero_add _)

private theorem handed_entry_replayed (i : Intake) (hreplayed : i.call.isReplayed r.tap = true) :
    (entry env i.call r.tap).handed ≠ [] := by
  have hhanded : (entry env i.call r.tap).handed = _ :=
    (i.call.onTap_replayed env r.tap hreplayed).handed
  rw [hhanded]
  exact i.take_ne_nil (Call.waiting_of_isReplayed hreplayed)

private theorem handover_of_stopped (hstopped : r.tap.monitor.sniffing = false)
    (intakes : List Intake) :
    ∃ replays lives, Handover (r.tap.inner.stream, r.tap.replay.waiting) intakes r.entries
      (gather (Trace.call env) intakes r) replays lives := by
  induction intakes generalizing r with
  | nil =>
    refine ⟨[], [], (List.append_nil _).symm, List.prefix_rfl, ?_, ?_, ?_, .inr rfl, rfl⟩
    · exact fun _ he => absurd he List.not_mem_nil
    · exact fun _ he => absurd he List.not_mem_nil
    · exact fun j hj => absurd hj (Nat.not_lt_zero j)
  | cons i rest ih =>
    -- The read that takes the last waiting bytes is served from the queue like those before it;
    -- what it leaves is an empty queue, which the next read finds.
    cases hreplayed : i.call.isReplayed r.tap with
    | false =>
      have hempty : Emptied r :=
        ⟨hstopped, Call.waiting_of_not_isReplayed hreplayed i.isRead hstopped⟩
      obtain ⟨lives, hlives⟩ := hempty.handover env (i :: rest)
      exact ⟨[], lives, hlives⟩
    | true =>
      have hcall := i.call.onTap_replayed env r.tap hreplayed
      have hinner : (r.call env i.call).2.tap.inner = r.tap.inner := hcall.inner
      have hwaiting : (r.call env i.call).2.tap.replay.waiting = _ := hcall.waiting
      obtain ⟨replays, lives, hrest⟩ :=
        ih (r := (r.call env i.call).2) (Call.onTap_stopped env hstopped)
      rw [hinner, hwaiting] at hrest
      rw [gather_replayed env i rest hreplayed]
      exact ⟨entry env i.call r.tap :: replays, lives, hrest.cons rfl
        ⟨hreplayed, entry_replayed hreplayed, handed_entry_replayed env i hreplayed⟩
        (Call.waiting_of_isReplayed hreplayed)⟩

private theorem taken_call (hstopped : r.tap.monitor.sniffing = false) (i : Intake) :
    (r.call env i.call).2.taken =
      r.taken ++ (i.call.outcome (r.call env i.call).1).bytes := by
  have htaken : (r.call env i.call).2.taken = r.taken ++ _ :=
    flatMap_entries_call env Entry.taken i.call r
  have hhanded : (entry env i.call r.tap).taken = i.call.handed (r.call env i.call).1 :=
    if_neg (Bool.eq_false_iff.mp hstopped)
  rw [htaken, hhanded, i.call.handed_of_isRead i.isRead]

private theorem taken_gather (hstopped : r.tap.monitor.sniffing = false) (intakes : List Intake) :
    (gather (Trace.call env) intakes r).source.taken =
      r.taken ++ (gather (Trace.call env) intakes r).bytes :=
  gather_total intakes (P := fun r : Trace σ => r.tap.monitor.sniffing = false)
    (fun _ _ => Call.onTap_stopped env) (fun i _ h => taken_call env h i) hstopped

private theorem forwarded_of_closing (i : Intake) {closing : Closing}
    (h : (i.call.outcome (r.call env i.call).1).closing? = some closing) :
    i.call.isReplayed r.tap = false := by
  cases hreplayed : i.call.isReplayed r.tap with
  | false => rfl
  | true =>
    have houtcome : i.call.outcome (r.call env i.call).1 = _ :=
      i.call.outcome_replayed env r.tap hreplayed
    have hfront := i.take_ne_nil (Call.waiting_of_isReplayed hreplayed)
    rw [houtcome, Upshot.closing?_moved hfront] at h
    cases h

private theorem last_of_closing (hstopped : r.tap.monitor.sniffing = false) {intakes : List Intake}
    {closing : Closing} (h : (gather (Trace.call env) intakes r).closing = some closing) :
    let tap := (gather (Trace.call env) intakes r).source.tap
    tap.replay.waiting = [] ∧ ∃ a ∈ tap.inner.log, a.call.isRead = true ∧ 0 < a.call.room ∧
      (a.call.upshot a.answer).closing? = some closing := by
  obtain ⟨past, i, -, hsource, hclosing⟩ := gather_last (Trace.call env) intakes r h
  rw [hsource]
  have hpast : (makeAll (Trace.call env) past r).tap.monitor.sniffing = false :=
    makeAll_keeps past (P := fun r : Trace σ => r.tap.monitor.sniffing = false)
      (fun _ _ => Call.onTap_stopped env) hstopped
  generalize makeAll (Trace.call env) past r = r at hpast hclosing
  have hforwarded := forwarded_of_closing env i hclosing
  have hempty : Emptied r :=
    ⟨hpast, Call.waiting_of_not_isReplayed hforwarded i.isRead hpast⟩
  obtain ⟨hresponse, hinner, -, -⟩ := i.call.onTap_forwarded env r.tap hforwarded
  have hlog : (r.call env i.call).2.tap.inner.log = r.tap.inner.log ++ [⟨i.call, _, _⟩] :=
    (congrArg Logged.log hinner).trans (Logged.log_next i.call r.tap.inner)
  refine ⟨(hempty.call env i.call).waiting,
    ⟨i.call, (i.call.ask r.tap.inner).stops, (i.call.ask r.tap.inner).answer⟩, ?_, i.isRead,
    i.roomy, ?_⟩
  · rw [hlog]
    exact List.mem_append_right _ (List.mem_singleton.mpr rfl)
  · rw [← hclosing, ← Call.outcome_respond, ← hresponse]
    rfl

end Stopped

section Feeds

variable {s : σ} {asked : Call → Prop} {bs : Bytes}

private theorem Bare.fed (h : Bare s r) (hfeeds : Feeds asked s bs)
    (hasked : ∀ e ∈ r.entries, asked e.call) : Fed bs r.tap.inner.log := by
  have hcalls : ∀ c ∈ r.tap.inner.log.map Answered.call, asked c := by
    intro c hc
    have hreturned := congrArg (List.map Returned.call) h.returned_log
    rw [List.map_map, List.map_map] at hreturned
    obtain ⟨e, he, rfl⟩ := List.mem_map.mp (hreturned ▸ hc)
    exact hasked e (List.mem_filter.mp he).1
  have hfed := hfeeds _ hcalls
  rw [h.follows] at hfed
  exact hfed

private theorem gather_feeds (hstopped : r.tap.monitor.sniffing = false) (intakes : List Intake)
    (hbare : Bare s (gather (Trace.call env) intakes r).source)
    (hfed : Fed bs (gather (Trace.call env) intakes r).source.tap.inner.log) :
    let haul := gather (Trace.call env) intakes r
    r.taken ++ haul.bytes <+: bs ∧
      (haul.closing = some .ended → r.taken ++ haul.bytes = bs) ∧
      (bs.length + haul.waits < r.taken.length + intakes.length →
        haul.closing = some .ended) := by
  intro haul
  have hwhole : r.taken ++ haul.bytes ++ haul.source.tap.replay.waiting =
      haul.source.tap.inner.delivered := by
    rw [← taken_gather env hstopped intakes]
    exact hbare.conserves.faithful.whole
  have hinOrder : r.taken ++ haul.bytes <+: bs :=
    List.IsPrefix.trans ⟨haul.source.tap.replay.waiting, hwhole⟩ hfed.inOrder
  refine ⟨hinOrder, ?_, ?_⟩
  · intro hended
    obtain ⟨hnone, a, ha, hread, hroom, hclosing⟩ := last_of_closing env hstopped hended
    rw [hnone, List.append_nil] at hwhole
    exact hwhole.trans (hfed.of_closing ha hread hroom hclosing).2
  · intro hmany
    cases hclosing : haul.closing with
    | none =>
      -- Each buffer was used for a byte or for a wait, and there are no more bytes than that.
      have hused := (gather_unclosed (Trace.call env) intakes r hclosing).2
      have hlength := hinOrder.length_le
      rw [List.length_append] at hlength
      change _ ≤ haul.bytes.length + haul.waits at hused
      omega
    | some closing =>
      obtain ⟨-, a, ha, hread, hroom, hlast⟩ := last_of_closing env hstopped hclosing
      exact congrArg some (hfed.of_closing ha hread hroom hlast).1

end Feeds

section Runs

/-- In every state of every run, stopping the sniffing and reading on brings the bytes that would be
handed over with the stream, and then what the stream brings to a reader that goes on with the
buffers that are left, up to the same end. The first reads are served from the queue, as many as it
takes for these bytes; none of them is empty, and the stream does not notice them. So a stream that
delivers given bytes and then ends has delivered exactly these to the readers after the sniffing. -/
theorem handoffs_agree (s : σ) (id : Uuid) (settings : SniffSettings) (ops : List Op)
    (intakes : List Intake) :
    let r := (start s id settings).after env ops
    let t := (Tap.wrap s id settings).after env ops
    let haul := gather (Trace.call env) intakes (r.heed .sniffing)
    gather (Call.onTap env) intakes (t.heed .sniffing) = haul.map (fun r => r.tap.forget) ∧
      (∃ replays lives, Handover t.intoParts intakes r.entries haul replays lives ∧
        (haul.closing ≠ none → haul.bytes = t.intoParts.2 ++
          (gather Call.onStream (intakes.drop replays.length) t.intoParts.1).bytes)) ∧
      (t.monitor.sniffing = true → r.taken = []) ∧
      ∀ asked bs, Feeds asked s bs → (∀ e ∈ r.entries, asked e.call) →
        (∀ i ∈ intakes, asked i.call) →
          r.taken ++ haul.bytes <+: bs ∧
          (haul.closing = some .ended → r.taken ++ haul.bytes = bs) ∧
          (bs.length + haul.waits < r.taken.length + intakes.length →
            haul.closing = some .ended) := by
  intro r t haul
  have ht : r.tap.forget = t := after_forget env _ ops
  have hparts : t.intoParts = ((r.heed .sniffing).tap.inner.stream, r.tap.replay.waiting) := by
    rw [← ht]
    exact congrArg (Prod.mk _) (ReplayQueue.intoRemaining_eq_waiting _)
  have hstopped : (r.heed .sniffing).tap.monitor.sniffing = false := by
    refine (r.tap.heed_sniffing .sniffing).trans ?_
    rw [decide_eq_true rfl, Bool.not_true, Bool.and_false]
  have hr : Bare s r := (Bare.start s id settings).after env ops
  obtain ⟨replays, lives, hhandover⟩ := handover_of_stopped env hstopped intakes
  refine ⟨?_, ⟨replays, lives, ?_, ?_⟩, ?_, ?_⟩
  · have hforget : t.heed .sniffing = (r.heed .sniffing).tap.forget := by rw [← ht]; rfl
    rw [hforget]
    refine gather_map intakes (P := fun _ => True) (fun _ _ _ => trivial)
      (fun r : Trace σ => r.tap.forget) ?_ trivial
    intro i r _
    exact i.call.onTap_forget env r.tap
  · rw [hparts]
    exact hhandover
  · rw [hparts]
    exact hhandover.bytes_of_closing
  · rw [← ht]
    exact hr.conserves.faithful.untaken
  · intro asked bs hfeeds hbefore hafter
    have hbare : Bare s haul.source := by
      obtain ⟨made, -, hsource⟩ := gather_source (Trace.call env) intakes (r.heed .sniffing)
      rw [hsource]
      exact makeAll_keeps made (fun i _ h => h.call env i.call) (hr.heed .sniffing)
    have hasked : ∀ e ∈ haul.source.entries, asked e.call := by
      intro e he
      rw [hhandover.entries] at he
      rcases List.mem_append.mp he with he | he
      · exact hbefore e he
      · obtain ⟨i, hi, hcall⟩ := List.mem_map.mp (hhandover.calls.subset (List.mem_map_of_mem he))
        exact hcall ▸ hafter i hi
    exact gather_feeds env hstopped intakes hbare (hbare.fed hfeeds hasked)

/-- A stream that delivers five bytes in two pieces. -/
def twoPieces : Script :=
  { reads := [{ act := .data [97, 98] }, { act := .data [99, 100, 101] }] }

/-- The sniffing leaves one byte in the stream; the second read empties the queue, with room left
over, and the third goes to the stream. -/
theorem handoffs_agree_twoPieces :
    let ops := [.call (.read 1), .sniff 2 []]
    let intakes := List.replicate 6 (Intake.mk (.read 3) rfl (by decide))
    let r := (start twoPieces .zero {}).after .ticking ops
    let t := (Tap.wrap twoPieces .zero {}).after .ticking ops
    let haul := gather (Trace.call .ticking) intakes (r.heed .sniffing)
    Feeds (fun c => c.isRead = true) twoPieces [97, 98, 99, 100, 101] ∧
      (∀ e ∈ r.entries, e.call.isRead = true) ∧ t.intoParts.2 = [97, 98, 99, 100] ∧
      gather (Call.onTap .ticking) intakes (t.heed .sniffing) = haul.map (fun r => r.tap.forget) ∧
      haul.closing = some .ended ∧ haul.bytes = [97, 98, 99, 100, 101] := by
  intro ops intakes r t haul
  have hflows : Script.Flows twoPieces [97, 98, 99, 100, 101] := by
    refine ⟨?_, rfl, rfl⟩
    intro step hstep
    rcases List.mem_cons.mp hstep with rfl | hstep
    · exact ⟨_, by decide, rfl⟩
    · cases List.mem_singleton.mp hstep
      exact ⟨_, by decide, rfl⟩
  have hreads : ∀ e ∈ r.entries, e.call.isRead = true := by decide +kernel
  have hwaiting : t.intoParts.2 = [97, 98, 99, 100] := by decide +kernel
  have hsniffing : t.monitor.sniffing = true := by decide +kernel
  have hcalm : haul.waits = 0 := by decide +kernel
  obtain ⟨hplain, -, huntaken, hfeeds⟩ :=
    handoffs_agree .ticking twoPieces .zero {} ops intakes
  have hnone : r.taken = [] := huntaken hsniffing
  obtain ⟨-, hwhole, hends⟩ := hfeeds _ _ (Script.feeds hflows) hreads (fun i _ => i.isRead)
  have hmany : 5 + haul.waits < r.taken.length + intakes.length := by
    rw [hcalm, hnone]
    decide
  have hbytes : r.taken ++ haul.bytes = _ := hwhole (hends hmany)
  rw [hnone] at hbytes
  exact ⟨Script.feeds hflows, hreads, hwaiting, hplain, hends hmany, hbytes⟩

end Runs

end Trace

end PeekRelay
