import PeekRelay.Proofs.Fidelity
import PeekRelay.Proofs.Tap.Forget
/-!
# Traces

A run of a tap is a list of operations: calls, stops made through a handle, and sniffs. A trace is a
tap of a logged stream together with an entry for every call that was made on it, those of the
sniffs included.
-/
namespace PeekRelay

/-- One step of the owner of a tap. A stop may also come from inside a call, or while a sniff is
pending. -/
inductive Op where
  | call (c : Call)
  | stop (stop : Stop)
  | sniff (wanted : Nat) (pauses : List (List Stop))

def Tap.perform {σ : Type} [ByteStream σ] (env : Surroundings) (t : Tap σ) : Op → Tap σ
  | .call c => (c.onTap env t).2
  | .stop stop => t.heed stop
  | .sniff wanted pauses => (Sniff.run (Tap.sniffSource env) wanted pauses t).2

def Tap.after {σ : Type} [ByteStream σ] (env : Surroundings) (t : Tap σ) (ops : List Op) : Tap σ :=
  ops.foldl (Tap.perform env) t

namespace Tap

variable {σ : Type} [ByteStream σ] (env : Surroundings)

private theorem perform_forget (t : Tap (Logged σ)) (op : Op) :
    (t.perform env op).forget = t.forget.perform env op := by
  cases op with
  | call c => exact (congrArg Prod.snd (c.onTap_forget env t)).symm
  | stop stop => rfl
  | sniff wanted pauses =>
    exact (congrArg Prod.snd (Sniff.run_map (forgetting env) wanted pauses t)).symm

/-- A tap goes the same way whether or not its stream keeps a log. -/
theorem after_forget (t : Tap (Logged σ)) (ops : List Op) :
    (t.after env ops).forget = t.forget.after env ops := by
  induction ops generalizing t with
  | nil => rfl
  | cons op ops ih =>
    change ((t.perform env op).after env ops).forget = _
    rw [ih, perform_forget]
    rfl

end Tap

/-- A call on a tap: how it was entered, what it asked of the stream, and what its caller got. -/
structure Entry where
  call : Call
  sniffing : Bool
  replayed : Bool
  forwarded : List Answered
  response : call.Response

namespace Entry

def delivered (e : Entry) : Bytes := e.forwarded.flatMap Answered.delivered

/-- What the stream delivered to a read that was entered while sniffing. -/
def sniffed (e : Entry) : Bytes := if e.sniffing then e.delivered else []

def handed (e : Entry) : Bytes := e.call.handed e.response

/-- What the caller of a read got that was entered after the sniffing. -/
def taken (e : Entry) : Bytes := if e.sniffing then [] else e.handed

end Entry

structure Trace (σ : Type) where
  tap : Tap (Logged σ)
  entries : List Entry := []

namespace Trace

section Totals

variable {σ : Type} (r : Trace σ)

def delivered : Bytes := r.entries.flatMap Entry.delivered

def sniffed : Bytes := r.entries.flatMap Entry.sniffed

def handed : Bytes := r.entries.flatMap Entry.handed

def taken : Bytes := r.entries.flatMap Entry.taken

end Totals

variable {σ : Type}

def start (s : σ) (id : Uuid) (settings : SniffSettings) : Trace σ :=
  { tap := .wrap ⟨s, []⟩ id settings }

def heed (r : Trace σ) (stop : Stop) : Trace σ := { r with tap := r.tap.heed stop }

variable [ByteStream σ] (env : Surroundings)

def entry (c : Call) (t : Tap (Logged σ)) : Entry where
  call := c
  sniffing := t.monitor.sniffing
  replayed := c.isReplayed t
  forwarded := (c.onTap env t).2.inner.log.drop t.inner.log.length
  response := (c.onTap env t).1

def call (c : Call) (r : Trace σ) : c.Response × Trace σ :=
  ((c.onTap env r.tap).1,
    { tap := (c.onTap env r.tap).2, entries := r.entries ++ [entry env c r.tap] })

section Call

variable {env} {c : Call} {t : Tap (Logged σ)}

theorem entry_forwarded (h : c.isReplayed t = false) : (entry env c t).forwarded =
    [⟨c, (c.ask t.inner).stops, (c.ask t.inner).answer⟩] := by
  have hlog := congrArg Logged.log (c.onTap_forwarded env t h).inner
  rw [Logged.log_next] at hlog
  exact (congrArg (List.drop _) hlog).trans List.drop_left

theorem entry_replayed (h : c.isReplayed t = true) : (entry env c t).forwarded = [] := by
  have hlog := congrArg Logged.log (c.onTap_replayed env t h).inner
  exact (congrArg (List.drop _) hlog).trans List.drop_length

theorem delivered_entry_forwarded (env : Surroundings) (h : c.isReplayed t = false) :
    (entry env c t).delivered = c.delivered (c.ask t.inner).answer := by
  rw [Entry.delivered, entry_forwarded h, List.flatMap_singleton]
  rfl

theorem handed_entry_forwarded (h : c.isReplayed t = false) :
    (entry env c t).handed = (entry env c t).delivered := by
  have hresponse : (entry env c t).response = _ := (c.onTap_forwarded env t h).response
  rw [delivered_entry_forwarded env h, Entry.handed, hresponse]
  exact c.handed_respond _

theorem delivered_entry_replayed (h : c.isReplayed t = true) : (entry env c t).delivered = [] := by
  rw [Entry.delivered, entry_replayed h]
  rfl

theorem log_onTap (env : Surroundings) (c : Call) (t : Tap (Logged σ)) :
    (c.onTap env t).2.inner.log = t.inner.log ++ (entry env c t).forwarded := by
  cases h : c.isReplayed t with
  | false => rw [entry_forwarded h, (c.onTap_forwarded env t h).inner, Logged.log_next]
  | true => rw [entry_replayed h, (c.onTap_replayed env t h).inner, List.append_nil]

end Call

theorem flatMap_entries_call {β : Type} (f : Entry → List β) (c : Call) (r : Trace σ) :
    (r.call env c).2.entries.flatMap f = r.entries.flatMap f ++ f (entry env c r.tap) := by
  rw [← List.flatMap_singleton f, ← List.flatMap_append]
  rfl

def sniffSource : Sniff.Source (Trace σ) where
  isSniffing r := r.tap.monitor.sniffing
  pollRead buffer r := r.call env (.pollRead buffer)
  heed stop r := r.heed stop

def perform (r : Trace σ) : Op → Trace σ
  | .call c => (r.call env c).2
  | .stop stop => r.heed stop
  | .sniff wanted pauses => (Sniff.run (sniffSource env) wanted pauses r).2

def after (r : Trace σ) (ops : List Op) : Trace σ := ops.foldl (perform env) r

section Keeps

variable {P : Trace σ → Prop} (hcall : ∀ c r, P r → P (call env c r).2)
  (hheed : ∀ stop r, P r → P (r.heed stop))

include hcall hheed

theorem sniff_keeps (r : Trace σ) (wanted : Nat) (pauses : List (List Stop)) (h : P r) :
    P (Sniff.run (sniffSource env) wanted pauses r).2 :=
  Sniff.run_keeps (fun buffer r => hcall (.pollRead buffer) r) hheed wanted pauses r h

/-- What every call and every stop keeps, every run keeps. -/
theorem after_keeps (r : Trace σ) (ops : List Op) (h : P r) : P (r.after env ops) := by
  induction ops generalizing r with
  | nil => exact h
  | cons op ops ih =>
    apply ih
    cases op with
    | call c => exact hcall c r h
    | stop stop => exact hheed stop r h
    | sniff wanted pauses => exact sniff_keeps env hcall hheed r wanted pauses h

end Keeps

section Forget

def tracing : Sniff.Source.Map (sniffSource (σ := σ) env) (Tap.sniffSource (σ := σ) env) where
  toFun r := r.tap.forget
  isSniffing _ := rfl
  pollRead buffer r := Call.onTap_forget env (.pollRead buffer) r.tap
  heed _ _ := rfl

private theorem perform_forget (r : Trace σ) (op : Op) :
    (r.perform env op).tap.forget = r.tap.forget.perform env op := by
  cases op with
  | call c => exact (congrArg Prod.snd (c.onTap_forget env r.tap)).symm
  | stop stop => rfl
  | sniff wanted pauses =>
    exact (congrArg Prod.snd (Sniff.run_map (tracing env) wanted pauses r)).symm

/-- A trace follows the run of the tap that it is a trace of. -/
theorem after_forget (r : Trace σ) (ops : List Op) :
    (r.after env ops).tap.forget = r.tap.forget.after env ops := by
  induction ops generalizing r with
  | nil => rfl
  | cons op ops ih =>
    change ((r.perform env op).after env ops).tap.forget = _
    rw [ih, perform_forget]
    rfl

theorem run_forget (wanted : Nat) (pauses : List (List Stop)) (r : Trace σ) :
    Sniff.run (Tap.sniffSource env) wanted pauses r.tap.forget =
      ((Sniff.run (sniffSource env) wanted pauses r).1,
        (Sniff.run (sniffSource env) wanted pauses r).2.tap.forget) :=
  Sniff.run_map (tracing env) wanted pauses r

end Forget

end Trace

end PeekRelay
