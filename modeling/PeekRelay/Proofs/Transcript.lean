import Mathlib.Data.List.Basic
import Mathlib.Data.Option.Basic
import PeekRelay.Proofs.Discretion
import PeekRelay.Proofs.Stopping
import PeekRelay.Proofs.Text.Decimal
import PeekRelay.Proofs.Text.Escaped
import PeekRelay.Tap.Whole
/-!
# The log is a transcript of what was sniffed

If payload is shown, every read that sniffs leaves a record that can be read back: which read it
was, how many bytes it brought, and these bytes, whatever they are. The records of a run, read one
after the other, give all that was ever queued for replay.
-/
namespace PeekRelay

structure SniffRecord where
  counter : Nat
  size : Nat
  payload : Bytes
  deriving DecidableEq

namespace SniffRecord

def opening (connection : Uuid) : List Char :=
  (Event.heading .info connection ++ "sniffed some data").toList

def announces (connection : Uuid) (record : String) : Bool :=
  (opening connection).isPrefixOf record.toList

/-- Reads a record back. The payload ends at the first quote that is not escaped, and nothing stands
behind it. -/
def read? (connection : Uuid) (record : String) : Option SniffRecord := do
  let rest ← record.toList.dropPrefix? (opening connection ++ ": counter=".toList)
  let (counter, rest) ← Decimal.take? rest
  let rest ← rest.dropPrefix? ", read_size=".toList
  let (size, rest) ← Decimal.take? rest
  let rest ← rest.dropPrefix? ", sniffed_data=\"".toList
  let (field, rest) ← Escaped.untilQuote rest
  guard (rest = [])
  let payload ← Escaped.read? field
  pure { counter, size, payload }

section Read

variable (connection : Uuid)

private theorem message_sniffed (counter size : Nat) (payload : Option Bytes) :
    (Event.sniffed counter size payload).message.toList =
      "sniffed some data".toList ++ (": counter=".toList ++ (Decimal.write counter ++
        (", read_size=".toList ++ (Decimal.write size ++ payload.elim [] fun bs =>
          ", sniffed_data=\"".toList ++ (Escaped.write bs ++ ['\x22']))))) := by
  have hopening : "sniffed some data: counter=" = "sniffed some data" ++ ": counter=" := by simp
  have hquote : "\"".toList = ['\x22'] := by simp
  have hmessage : (Event.sniffed counter size payload).message =
      "sniffed some data: counter=" ++ toString counter ++ ", read_size=" ++ toString size ++
        payload.elim "" fun bs => ", sniffed_data=\"" ++ Escaped.text bs ++ "\"" := by
    cases payload <;> rfl
  rw [hmessage, hopening]
  cases payload <;> simp [Escaped.text, ← Decimal.toList_toString]

private theorem toList_record (counter size : Nat) (bs : Bytes) :
    ((Event.sniffed counter size (some bs)).record connection).toList =
      (opening connection ++ ": counter=".toList) ++ (Decimal.write counter ++
        (", read_size=".toList ++ (Decimal.write size ++
          (", sniffed_data=\"".toList ++ (Escaped.write bs ++ ['\x22']))))) := by
  rw [Event.record, String.toList_append, message_sniffed, opening, String.toList_append]
  simp only [List.append_assoc]
  rfl

private theorem read?_record (counter size : Nat) (bs : Bytes) :
    read? connection ((Event.sniffed counter size (some bs)).record connection) =
      some { counter, size, payload := bs } := by
  have hdrop (cs rest : List Char) : (cs ++ rest).dropPrefix? cs = some rest :=
    List.dropPrefix?_append_of_beq rest (beq_self_eq_true cs)
  have hcomma (rest : List Char) : Decimal.Undigited (',' :: rest) :=
    Decimal.undigited_cons (by decide) rest
  rw [read?, toList_record, hdrop]
  have hsize : Decimal.Undigited (", read_size=".toList ++ (Decimal.write size ++
      (", sniffed_data=\"".toList ++ (Escaped.write bs ++ ['\x22'])))) := hcomma _
  have hdata : Decimal.Undigited (", sniffed_data=\"".toList ++ (Escaped.write bs ++ ['\x22'])) :=
    hcomma _
  simp only [Option.bind_eq_bind, Option.bind_some, Decimal.take?_write _ hsize, hdrop,
    Decimal.take?_write _ hdata, Escaped.untilQuote_write, Escaped.read?_write, guard_true]
  rfl

private theorem announces_iff (record : String) :
    announces connection record = true ↔ opening connection <+: record.toList :=
  List.isPrefixOf_iff_prefix

private theorem announces_of_level {e : Event} (h : e.level ≠ .info) :
    announces connection (e.record connection) = false := by
  -- The level stands in front, so records of other levels start with other letters.
  apply Bool.eq_false_iff.mpr
  rw [Ne, announces_iff, opening, Event.record, Event.heading, Event.heading]
  cases hlevel : e.level with
  | info => exact absurd hlevel h
  | _ =>
    simp [Level.name]

private theorem announces_of_info {e : Event} (h : e.level = .info) :
    announces connection (e.record connection) = true ↔
      "sniffed some data".toList <+: e.message.toList := by
  rw [announces_iff, opening, Event.record, h, String.toList_append, String.toList_append,
    List.prefix_append_right_inj]

private theorem head?_address (address : SocketAddress) : address.toList.head? ≠ some 's' := by
  cases address with
  | v4 ip service =>
    intro hhead
    rcases hdigits : Decimal.write ip.a.toNat with _ | ⟨d, ds⟩
    · exact Decimal.write_ne_nil _ hdigits
    · have hdigit : Decimal.isDigit d = true :=
        Decimal.isDigit_of_mem_write (hdigits ▸ List.mem_cons_self)
      simp [SocketAddress.toList, Ipv4.toList, hdigits] at hhead
      rw [hhead] at hdigit
      exact absurd hdigit (by decide)
  | v6 ip scope service => simp [SocketAddress.toList]

private theorem announces_of_head {e : Event} (h : e.level = .info)
    (hhead : e.message.toList.head? ≠ some 's') :
    announces connection (e.record connection) = false := by
  apply Bool.eq_false_iff.mpr
  rw [Ne, announces_of_info connection h]
  rintro ⟨rest, hrest⟩
  rw [← hrest] at hhead
  exact hhead (by simp)

private theorem announces_record (e : Event) :
    announces connection (e.record connection) = e.isSniffed := by
  cases e with
  | sniffed counter size payload =>
    apply (announces_of_info connection rfl).mpr
    rw [message_sniffed]
    exact List.prefix_append _ _
  | opened client count =>
    apply announces_of_head connection rfl
    have hmessage : (Event.opened client count).message =
        client.toString ++ " opened with " ++ toString count ++ " leading bytes" := rfl
    have hhead := head?_address client
    rcases hclient : client.toList with _ | ⟨c, cs⟩
    · simp [hmessage, SocketAddress.toString, hclient]
    · rw [hclient] at hhead
      simpa [hmessage, SocketAddress.toString, hclient] using hhead
  | relayed toTarget toClient =>
    apply announces_of_head connection rfl
    have hmessage : (Event.relayed toTarget toClient).message = "Relay finished: " ++
        toString toTarget ++ " bytes to upstream, " ++ toString toClient ++
          " bytes to client" := rfl
    simp [hmessage]
  | _ => exact announces_of_level connection (by simp [Event.level])

end Read

end SniffRecord

namespace Monitor

def fixed (m : Monitor) : Uuid × Bool := (m.id, m.showPayload)

private theorem heedAll_fixed (m : Monitor) (stops : List Stop) :
    (m.heedAll stops).fixed = m.fixed := by
  rw [fixed, fixed, id, m.heedAll_recorder, m.heedAll_showPayload]
  rfl

end Monitor

namespace Tap

variable {σ : Type} (env : Surroundings)

section Fixed

variable (t : Tap σ) (c : Call)

private theorem recording_fixed {f : Recorder → Recorder} (h : ∀ r, (f r).id = r.id) :
    (t.recording f).monitor.fixed = t.monitor.fixed :=
  congrArg (Prod.mk · t.monitor.showPayload) (h t.monitor.recorder)

private theorem keeping_fixed (direction : Direction) (bs : Bytes) :
    (t.recording fun r => r.keep direction bs).monitor.fixed = t.monitor.fixed :=
  t.recording_fixed (f := fun r => r.keep direction bs) fun r => r.keep_id direction bs

private theorem entered_fixed : (t.entered env c).monitor.fixed = t.monitor.fixed := by
  cases c <;> rfl

private theorem recordMoved_fixed (sniffing : Bool) (bs : Bytes) (direction : Direction) :
    (t.recordMoved sniffing bs direction).monitor.fixed = t.monitor.fixed := by
  have hkept := t.keeping_fixed direction bs
  cases direction with
  | read => cases sniffing <;> exact hkept
  | write => exact hkept

private theorem concluded_fixed (sniffing : Bool) (u : Upshot) :
    (t.concluded env c sniffing u).monitor.fixed = t.monitor.fixed := by
  unfold concluded
  rcases c.direction? with _ | direction
  · rfl
  · cases u with
    | moved bs => exact t.recordMoved_fixed sniffing bs direction
    | failed e => cases direction <;> rfl
    | pending | panicked => rfl

private theorem shed_fixed : t.shed.monitor.fixed = t.monitor.fixed := by
  unfold shed
  split <;> rfl

variable [ByteStream σ]

private theorem move_fixed (m : Move) : (t.move env m).monitor.fixed = t.monitor.fixed := by
  cases m with
  | call c =>
    change (c.onTap env t).2.monitor.fixed = _
    cases hreplayed : c.isReplayed t with
    | true =>
      rw [c.onTap_eq_replay env t hreplayed]
      exact (shed_fixed _).trans (t.entered_fixed env c)
    | false =>
      rw [c.onTap_eq_forward env t hreplayed, concluded_fixed]
      exact (Monitor.heedAll_fixed _ _).trans (t.entered_fixed env c)
  | stop stop => exact t.monitor.heedAll_fixed [stop]

end Fixed

section Sniffs

variable [ByteStream σ] (t : Tap σ)

def sniffRead? (m : Move) : Option Bytes :=
  match m with
  | .call c => c.sniffed? t.monitor.sniffing (c.outcome (c.onTap env t).1)
  | .stop _ => none

/-- The reads that sniffed along a course, each with the bytes that it got. -/
def sniffReads (moves : List Move) : List Bytes :=
  t.along env (fun t m => (t.sniffRead? env m).toList) moves

def queuedIn (m : Move) : Bytes := (t.move env m).replay.stored.drop t.replay.stored.length

/-- All that is ever stored in the queue along a course. -/
def queuedAlong (moves : List Move) : Bytes := t.along env (queuedIn env) moves

private theorem sniffRead?_eq (m : Move) : t.sniffRead? env m = t.sniffedIn m := by
  cases m with
  | call c =>
    rw [sniffRead?, sniffedIn]
    cases hflag : t.monitor.sniffing with
    | true =>
      rw [(c.onTap_forwarded env t (Call.isReplayed_of_sniffing hflag)).response,
        Call.outcome_respond]
    | false => rfl
  | stop stop => rfl

private theorem queuedIn_eq (m : Move) : t.queuedIn env m = (t.sniffRead? env m).getD [] := by
  rw [sniffRead?_eq, queuedIn]
  cases hsniffed : t.sniffedIn m with
  | some bs =>
    rw [(move_sniffed env hsniffed).queue]
    exact List.drop_left
  | none =>
    rcases (move_unsniffed env hsniffed).queue with ⟨hsame, -⟩ | hnone
    · rw [hsame]
      exact List.drop_length
    · rw [hnone]
      exact List.drop_nil

end Sniffs

/-- The reads that sniffed so far, as the log tells of them and as the tap counted and queued
them. -/
structure Transcribes (connection : Uuid) (reads : List Bytes) (queued : Bytes) (t : Tap σ) :
    Prop where
  fixed : t.monitor.fixed = (connection, true)
  count : t.monitor.recorder.sniffCount = reads.length
  reports : t.sniffReports = reads.mapIdx fun i bs => .sniffed i bs.length (some bs)
  queued : queued = reads.flatten

namespace Transcribes

variable {env} {t : Tap σ} {connection : Uuid} {reads : List Bytes} {queued : Bytes}

private theorem wrap (s : σ) (id : Uuid) (settings : SniffSettings)
    (h : settings.showPayload = true) :
    (Tap.wrap s id settings).Transcribes id [] [] where
  fixed := congrArg (Prod.mk id) h
  count := rfl
  reports := rfl
  queued := rfl

private theorem move [ByteStream σ] (h : t.Transcribes connection reads queued) (m : Move) :
    (t.move env m).Transcribes connection (reads ++ (t.sniffRead? env m).toList)
      (queued ++ t.queuedIn env m) := by
  have hshown : t.monitor.showPayload = true := congrArg Prod.snd h.fixed
  have hqueued : queued ++ t.queuedIn env m = (reads ++ (t.sniffRead? env m).toList).flatten := by
    rw [queuedIn_eq, h.queued, List.flatten_append]
    cases t.sniffRead? env m <;> simp
  rw [sniffRead?_eq] at hqueued ⊢
  cases hsniffed : t.sniffedIn m with
  | none =>
    obtain ⟨-, hcount, hreports⟩ := move_unsniffed env hsniffed
    rw [hsniffed] at hqueued
    rw [Option.toList_none, List.append_nil] at hqueued ⊢
    exact ⟨(t.move_fixed env m).trans h.fixed, hcount.trans h.count, hreports.trans h.reports,
      hqueued⟩
  | some bs =>
    obtain ⟨-, hcount, hreports⟩ := move_sniffed env hsniffed
    rw [hsniffed] at hqueued
    refine ⟨(t.move_fixed env m).trans h.fixed, ?_, ?_, hqueued⟩
    · rw [hcount, h.count]
      simp
    · rw [hreports, h.reports, sniffReport, hshown, h.count]
      simp [List.mapIdx_append]

end Transcribes

section Records

variable {t : Tap σ} {connection : Uuid}

private theorem records_filter (h : t.monitor.id = connection) :
    t.monitor.records.filter (SniffRecord.announces connection) =
      t.sniffReports.map (Event.record connection) := by
  rw [Monitor.records, h, List.filter_map]
  refine congrArg (List.map (Event.record connection)) (List.filter_congr ?_)
  intro e _
  rw [Function.comp_apply, SniffRecord.announces_record]

namespace Transcribes

variable {reads : List Bytes} {queued : Bytes} (h : t.Transcribes connection reads queued)

include h

private theorem map_read? :
    (t.monitor.records.filter (SniffRecord.announces connection)).map
        (SniffRecord.read? connection) =
      reads.mapIdx fun i bs => some { counter := i, size := bs.length, payload := bs } := by
  rw [records_filter (congrArg Prod.fst h.fixed), h.reports, List.map_map,
    List.mapIdx_eq_zipIdx_map, List.mapIdx_eq_zipIdx_map, List.map_map]
  apply List.map_congr_left
  rintro ⟨bs, i⟩ _
  exact SniffRecord.read?_record connection i bs.length bs

private theorem flatMap_payload :
    ((t.monitor.records.filter (SniffRecord.announces connection)).filterMap
        (SniffRecord.read? connection)).flatMap SniffRecord.payload = queued := by
  have hread (records : List String) : records.filterMap (SniffRecord.read? connection) =
      (records.map (SniffRecord.read? connection)).filterMap id := by
    rw [List.filterMap_map]
    rfl
  rw [hread, h.map_read?, List.mapIdx_eq_zipIdx_map, List.filterMap_map, h.queued]
  change (reads.zipIdx.filterMap (some ∘ fun p => SniffRecord.mk p.2 p.1.length p.1)).flatMap _ = _
  rw [List.filterMap_eq_map, List.flatMap_map]
  exact congrArg List.flatten (List.zipIdx_map_fst 0 reads)

end Transcribes

end Records

section Runs

variable [ByteStream σ]

/-- If payload is shown, then in every state of every run the reads that sniffed so far are counted,
and each has left one record. The records, in the order of the log, have the numbers from nought on,
and each gives back how many bytes its read got, and which. All their bytes together are what was
ever stored in the queue. -/
theorem records_transcribe (s : σ) (id : Uuid) (settings : SniffSettings) (ops : List Op)
    (hshown : settings.showPayload = true) :
    let t₀ := Tap.wrap s id settings
    let moves := t₀.course env ops
    t₀.follow env moves = t₀.after env ops ∧
      ∀ past, past <+: moves →
        let t := t₀.follow env past
        let reads := t₀.sniffReads env past
        let records := t.monitor.records.filter (SniffRecord.announces id)
        (Diagnostics.ofMonitor t.monitor).sniffCount = reads.length ∧
          records.length = reads.length ∧
          records.map (SniffRecord.read? id) = reads.mapIdx (fun i bs =>
            some { counter := i, size := bs.length, payload := bs }) ∧
          (records.filterMap (SniffRecord.read? id)).flatMap SniffRecord.payload =
            t₀.queuedAlong env past := by
  intro t₀ moves
  have htranscribes : ∀ past, (t₀.follow env past).Transcribes id (t₀.sniffReads env past)
      (t₀.queuedAlong env past) := by
    apply t₀.follow_induction env (P := fun past t => t.Transcribes id (t₀.sniffReads env past)
      (t₀.queuedAlong env past))
    · exact .wrap s id settings hshown
    · intro past m h
      rw [sniffReads, queuedAlong, along_concat, along_concat]
      exact h.move m
  refine ⟨(t₀.after_eq_follow env ops).symm, ?_⟩
  intro past _ t reads records
  have h : t.Transcribes id reads (t₀.queuedAlong env past) := htranscribes past
  have hread : records.map (SniffRecord.read? id) = _ := h.map_read?
  have hqueued : (records.filterMap (SniffRecord.read? id)).flatMap SniffRecord.payload = _ :=
    h.flatMap_payload
  have hlength : records.length = reads.length := by
    simpa using congrArg List.length hread
  exact ⟨h.count, hlength, hread, hqueued⟩

/-- A stream that delivers quotes and backslashes, nothing, an error, and four bytes that look like
an escape themselves, during whose delivery another thread stops the sniffing. -/
def quoting : Script :=
  { reads := [{ act := .data [34, 92, 34] }, { act := .data [] },
      { act := .fail (.bare .timedOut) },
      { stop := some .sniffing, act := .data [92, 120, 50, 50] }, { act := .data [97] }] }

/-- Three of the five reads of the stream sniffed, and a later one was served from the queue. -/
theorem records_transcribe_quoting :
    let read := Op.call (.read 8)
    let ops := [read, .call (.pollRead { room := 8 }), read, read, read, read]
    let t₀ := Tap.wrap quoting .zero {}
    let moves := t₀.course .ticking ops
    let t := t₀.follow .ticking moves
    let records := t.monitor.records.filter (SniffRecord.announces .zero)
    t₀.sniffReads .ticking moves = [[34, 92, 34], [], [92, 120, 50, 50]] ∧
      t.monitor.log.length = 7 ∧ records.length = 3 ∧
      records.map (SniffRecord.read? .zero) = [some ⟨0, 3, [34, 92, 34]⟩, some ⟨1, 0, []⟩,
        some ⟨2, 4, [92, 120, 50, 50]⟩] ∧
      t₀.queuedAlong .ticking moves = [34, 92, 34, 92, 120, 50, 50] := by
  intro read ops t₀ moves t records
  have hreads : t₀.sniffReads .ticking moves = [[34, 92, 34], [], [92, 120, 50, 50]] := by
    decide +kernel
  have hlength : t.monitor.log.length = 7 := by decide +kernel
  have hqueued : t₀.queuedAlong .ticking moves = [34, 92, 34, 92, 120, 50, 50] := by decide +kernel
  obtain ⟨-, hruns⟩ := records_transcribe .ticking quoting .zero {} ops rfl
  obtain ⟨-, hcount, hfields, -⟩ := hruns moves List.prefix_rfl
  rw [hreads] at hcount hfields
  exact ⟨hreads, hlength, hcount, hfields, hqueued⟩

end Runs

end Tap

end PeekRelay
