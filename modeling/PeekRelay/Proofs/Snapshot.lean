import PeekRelay.Proofs.Json
import PeekRelay.Proofs.Time.Rfc3339
import PeekRelay.Proofs.Uuid
import PeekRelay.Snapshot.Reader
import PeekRelay.Snapshot.Writer
/-!
# Snapshots survive their JSON form

If its codecs read back what they wrote, a snapshot is read back from its text with every field as
it was. The standard codecs do so: for times that are not set, payload of any bytes, and texts with
any characters included.
-/
namespace PeekRelay

open Json Decoder

/-- What is relied on of codecs. A time that is written is not taken for one that is not set. -/
structure Snapshot.Codecs.Faithful (codecs : Codecs) : Prop where
  flag : ∀ b, codecs.flag.decode.Reads (codecs.flag.write b) b
  count : ∀ n < Nat.pow 2 64, codecs.count.decode.Reads (codecs.count.write n) n
  payload : ∀ bs, codecs.payload.decode.Reads (codecs.payload.write bs) bs
  text : ∀ s, codecs.text.decode.Reads (codecs.text.write s) s
  time : ∀ t, codecs.time.decode.Reads (codecs.time.write t) t
  timeOpens : ∀ t, Opens (codecs.time.write t) 'n'
  id : ∀ u, codecs.id.decode.Reads (codecs.id.write u) u

section Codecs

variable {codecs : Snapshot.Codecs} (hcodecs : codecs.Faithful)

include hcodecs

private theorem Timeline.reads_time (name : String) (t : Option Instant) (d : Draft) :
    Reads ((time codecs name).read d) (writeOption codecs.time.write t) ((name, t) :: d) :=
  reads_field (reads_writeOption t fun t _ => ⟨hcodecs.time t, hcodecs.timeOpens t⟩) d

theorem Timeline.reads_write (t : Timeline) :
    (Timeline.decoder codecs).Reads (t.write codecs) t := by
  have hfinish : (.ok (ofDraft t.fields.reverse) : Except Fault Timeline) = .ok t := rfl
  refine reads_writeObject ?_ (List.cons_ne_nil _ _) hfinish
  refine .cons rfl rfl (reads_time hcodecs "first_read_at" t.firstReadAt []) ?_
  refine .cons rfl rfl (reads_time hcodecs "first_write_at" t.firstWriteAt _) ?_
  refine .cons rfl rfl (reads_time hcodecs "last_read_start" t.lastReadStart _) ?_
  refine .cons rfl rfl (reads_time hcodecs "last_read_end" t.lastReadEnd _) ?_
  refine .cons rfl rfl (reads_time hcodecs "last_write_start" t.lastWriteStart _) ?_
  refine .cons rfl rfl (reads_time hcodecs "last_write_end" t.lastWriteEnd _) ?_
  exact .nil _

theorem FailureTrace.reads_write (t : FailureTrace) :
    (FailureTrace.decoder codecs).Reads (t.write codecs) t := by
  have hfinish : ofDraft ⟨some t.capturedAt, some t.kind, some t.message, some t.backtrace⟩ =
      .ok t := rfl
  refine reads_writeObject ?_ (List.cons_ne_nil _ _) hfinish
  refine .cons rfl rfl (reads_field (hcodecs.time t.capturedAt) _) ?_
  refine .cons rfl rfl (reads_field (hcodecs.text t.kind) _) ?_
  refine .cons rfl rfl (reads_field (hcodecs.text t.message) _) ?_
  refine .cons rfl rfl (reads_field (hcodecs.text t.backtrace) _) ?_
  exact .nil _

private theorem FailureTrace.reads_option (t : Option FailureTrace) :
    (optional (FailureTrace.decoder codecs)).Reads (writeOption (FailureTrace.write codecs) t) t :=
  reads_writeOption t fun t _ => ⟨t.reads_write hcodecs, _, _, rfl, rfl, by decide⟩

/-- A snapshot is read back with all its fields, whatever codecs it is written with. -/
theorem Snapshot.reads_write (s : Snapshot) :
    (Snapshot.decoder codecs).Reads (s.write codecs) s := by
  have hcount : UInt64.ofNat s.sniffCount.toNat = s.sniffCount := UInt64.ofNat_toNat
  have hfinish : ofDraft ⟨some s.connectionId, some s.sniffing, some s.copying,
      some s.sniffCount.toNat, some s.readCopy, some s.writeCopy, some s.timeline,
      some s.failure⟩ = .ok s := by
    simp only [ofDraft, need, ok_bind, hcount]
    rfl
  refine reads_writeObject ?_ (List.cons_ne_nil _ _) hfinish
  refine .cons rfl rfl (reads_field (hcodecs.id s.connectionId) _) ?_
  refine .cons rfl rfl (reads_field (hcodecs.flag s.sniffing) _) ?_
  refine .cons rfl rfl (reads_field (hcodecs.flag s.copying) _) ?_
  refine .cons rfl rfl (reads_field (hcodecs.count _ s.sniffCount.toNat_lt) _) ?_
  refine .cons rfl rfl (reads_field (hcodecs.payload s.readCopy) _) ?_
  refine .cons rfl rfl (reads_field (hcodecs.payload s.writeCopy) _) ?_
  refine .cons rfl rfl (reads_field (s.timeline.reads_write hcodecs) _) ?_
  refine .cons rfl rfl (reads_field (FailureTrace.reads_option hcodecs s.failure) _) ?_
  exact .nil _

end Codecs

private theorem Instant.reads_toJson (t : Instant) : Instant.decode.Reads t.toJson t :=
  reads_writeString _ (Rfc3339.read?_text t)

private theorem Uuid.reads_toJson (u : Uuid) : Uuid.decode.Reads u.toJson u :=
  reads_writeString _ u.ofString?_toString

private theorem opens_writeString (s : String) : Opens (writeString s) 'n' :=
  ⟨_, _, rfl, rfl, by decide⟩

namespace Snapshot

theorem Codecs.standard_faithful : Codecs.standard.Faithful where
  flag := reads_writeBool
  count _ hn := reads_writeNat "u64" (Nat.le_refl _) hn
  payload := reads_writeBytes
  text := reads_text
  time := Instant.reads_toJson
  timeOpens _ := opens_writeString _
  id := Uuid.reads_toJson

/-- Every snapshot is read back from its text with all its fields. -/
theorem ofJson_text (s : Snapshot) : ofJson s.text = .ok s :=
  run_ofList (s.reads_write Codecs.standard_faithful)

end Snapshot

end PeekRelay
