import PeekRelay.Proofs.Intake
import PeekRelay.Proofs.StoppedSniff
import PeekRelay.Proofs.Stopping
/-!
# A sniff reads just enough

A sniff reads until it has as many bytes as it wants, a read brings nothing or fails, or it is
dropped while a read is pending. So it makes no read that it could do without, and all that its
reads bring is queued and counted, however it ends.
-/
namespace PeekRelay

def Upshot.isCompleted : Upshot → Bool
  | pending => false
  | _ => true

namespace Sniff

/-- What a sniff makes of its reads when it has some bytes already: what they come to, in order, and
how the sniff ends. -/
inductive Reads (wanted : Nat) : Bytes → List Upshot → SniffEnd → Prop where
  | enough {got : Bytes} : wanted ≤ got.length → Reads wanted got [] (.done (.ok got))
  | ended {got : Bytes} : got.length < wanted → Reads wanted got [.moved []] (.done (.ok got))
  | failed {got : Bytes} (e : IoError) : got.length < wanted →
    Reads wanted got [.failed e] (.done (.error e))
  | dropped {got : Bytes} : got.length < wanted → Reads wanted got [.pending] .cancelled
  | waited {got : Bytes} {us : List Upshot} {ending : SniffEnd} : got.length < wanted →
    Reads wanted got us ending → Reads wanted got (.pending :: us) ending
  | moved {got bs : Bytes} {us : List Upshot} {ending : SniffEnd} : got.length < wanted → bs ≠ [] →
    Reads wanted (got ++ bs) us ending → Reads wanted got (.moved bs :: us) ending

namespace Reads

variable {wanted : Nat} {got : Bytes} {us : List Upshot} {ending : SniffEnd}

private theorem completed_le (h : Reads wanted got us ending) :
    us.countP Upshot.isCompleted ≤ wanted - got.length := by
  induction h with
  | enough henough => exact Nat.zero_le _
  | ended hwants | failed _ hwants => exact Nat.sub_pos_of_lt hwants
  | dropped hwants => exact Nat.zero_le _
  | waited hwants _ ih => exact ih
  | moved hwants hbs _ ih =>
    have hlength := List.length_pos_iff.mpr hbs
    rw [List.length_append] at ih
    rw [List.countP_cons_of_pos rfl]
    omega

private theorem ne_nil (h : Reads wanted got us .cancelled) : us ≠ [] := by
  rintro rfl
  cases h

private theorem completed_lt (h : Reads wanted got us .cancelled) :
    us.countP Upshot.isCompleted < wanted - got.length := by
  generalize hending : SniffEnd.cancelled = ending at h
  induction h with
  | enough | ended | failed => cases hending
  | dropped hwants => exact Nat.sub_pos_of_lt hwants
  | waited hwants _ ih => exact ih hending
  | moved hwants hbs _ ih =>
    have hlength := List.length_pos_iff.mpr hbs
    have hrest := ih hending
    rw [List.length_append] at hrest
    rw [List.countP_cons_of_pos rfl]
    omega

private theorem needed (h : Reads wanted got us ending) {past later : List Upshot} {u : Upshot}
    (hus : us = past ++ u :: later) :
    got.length + (past.flatMap Upshot.bytes).length < wanted ∧ ∀ v ∈ past, v.closing? = none := by
  induction h generalizing past with
  | enough henough => simp at hus
  | ended hwants | failed _ hwants | dropped hwants =>
    cases past with
    | nil => exact ⟨hwants, nofun⟩
    | cons v past => simp at hus
  | waited hwants _ ih =>
    cases past with
    | nil => exact ⟨hwants, nofun⟩
    | cons v past =>
      obtain ⟨rfl, hrest⟩ := List.cons.inj hus
      obtain ⟨hlength, hopen⟩ := ih hrest
      exact ⟨hlength, List.forall_mem_cons.mpr ⟨rfl, hopen⟩⟩
  | moved hwants hbs _ ih =>
    cases past with
    | nil => exact ⟨hwants, nofun⟩
    | cons v past =>
      obtain ⟨rfl, hrest⟩ := List.cons.inj hus
      obtain ⟨hlength, hopen⟩ := ih hrest
      refine ⟨?_, List.forall_mem_cons.mpr ⟨Upshot.closing?_moved hbs, hopen⟩⟩
      rw [List.flatMap_cons, List.length_append, ← Nat.add_assoc, ← List.length_append]
      exact hlength

private theorem done_ok {p : Bytes} (h : Reads wanted got us (.done (.ok p))) :
    p = got ++ us.flatMap Upshot.bytes ∧
      (wanted ≤ p.length ∨ us.getLast? = some (.moved [])) := by
  generalize hending : SniffEnd.done (.ok p) = ending at h
  induction h with
  | enough henough =>
    cases hending
    exact ⟨(List.append_nil _).symm, .inl henough⟩
  | ended =>
    cases hending
    exact ⟨(List.append_nil _).symm, .inr rfl⟩
  | failed | dropped => cases hending
  | waited hwants hreads ih | moved hwants _ hreads ih =>
    obtain ⟨hp, hlast⟩ := ih hending
    refine ⟨by rw [hp]; simp [Upshot.bytes], hlast.imp_right ?_⟩
    intro hended
    rw [List.getLast?_cons, hended]
    rfl

private theorem failed_iff (h : Reads wanted got us ending) (e : IoError) :
    ending = .done (.error e) ↔ .failed e ∈ us := by
  induction h with
  | enough | ended | dropped => simp
  | failed e' => simp [eq_comm]
  | waited _ _ ih | moved _ _ _ ih => simpa using ih

private theorem not_panicked (h : Reads wanted got us ending) : ending ≠ .panicked := by
  induction h with
  | enough | ended | failed | dropped => exact nofun
  | waited _ _ ih | moved _ _ _ ih => exact ih

private theorem length_le (h : Reads wanted got us ending) {chunk : Nat}
    (hchunk : ∀ u ∈ us, u.bytes.length ≤ chunk) (hwanted : got.length < wanted) :
    got.length + (us.flatMap Upshot.bytes).length ≤ wanted - 1 + chunk := by
  rcases List.eq_nil_or_concat us with rfl | ⟨past, u, rfl⟩
  · simp
    omega
  · rw [List.concat_eq_append] at *
    obtain ⟨hlength, -⟩ := h.needed rfl
    have hlast := hchunk u (List.mem_append_right _ (List.mem_singleton_self u))
    rw [List.flatMap_append, List.flatMap_singleton, List.length_append]
    omega

end Reads

/-- A sniff that wants so many bytes makes no read that it could do without, and makes of its reads
what it should. A read is in vain once the wanted bytes are there, and after a read that brought
nothing or failed. -/
structure JustEnough (wanted : Nat) (us : List Upshot) (ending : SniffEnd) : Prop where
  completed : us.countP Upshot.isCompleted ≤ wanted
  unneeded : wanted = 0 → us = []
  needed : ∀ past u later, us = past ++ u :: later →
    (past.flatMap Upshot.bytes).length < wanted ∧ ∀ v ∈ past, v.closing? = none
  bounded : 1 ≤ wanted → (us.flatMap Upshot.bytes).length ≤ wanted - 1 + min wanted 4096
  yields : ∀ p, ending = .done (.ok p) → p = us.flatMap Upshot.bytes ∧
    (wanted ≤ p.length ∨ us.getLast? = some (.moved []))
  fails : ∀ e, ending = .done (.error e) ↔ .failed e ∈ us
  unpanicked : ending ≠ .panicked

private theorem Reads.justEnough {wanted : Nat} {us : List Upshot} {ending : SniffEnd}
    (h : Reads wanted [] us ending)
    (hchunk : ∀ u ∈ us, u.bytes.length ≤ max 1 (min wanted 4096)) :
    JustEnough wanted us ending where
  completed := h.completed_le
  unneeded := by
    rintro rfl
    cases us with
    | nil => rfl
    | cons u us =>
      obtain ⟨hwants, -⟩ := h.needed (List.nil_append (u :: us)).symm
      exact absurd hwants (Nat.not_lt_zero _)
  needed past u later hus := by simpa using h.needed hus
  bounded hwanted := by
    have hlength := h.length_le hchunk hwanted
    have hroom : max 1 (min wanted 4096) = min wanted 4096 := by omega
    rw [hroom] at hlength
    simpa using hlength
  yields p hp := by
    subst hp
    simpa using h.done_ok
  fails := h.failed_iff
  unpanicked := h.not_panicked

/-- What a poll of a sniff makes of its reads: the sniff is finished, or it goes on with what it has
got now. -/
def Polled (sniff : Sniff) (us : List Upshot) : Poll (Result Bytes) → Sniff → Prop
  | .ready result, _ => Reads sniff.wanted sniff.collected us (.done result)
  | .pending, next => next.wanted = sniff.wanted ∧
    Reads sniff.wanted sniff.collected us .cancelled ∧
    ∀ later ending, Reads next.wanted next.collected later ending →
      Reads sniff.wanted sniff.collected (us ++ later) ending

namespace Polled

variable {sniff next : Sniff} {us : List Upshot} {result : Poll (Result Bytes)}

private theorem pending (h : sniff.collected.length < sniff.wanted) :
    sniff.Polled [.pending] .pending sniff :=
  ⟨rfl, .dropped h, fun _ _ hlater => .waited h hlater⟩

private theorem moved {bs : Bytes} (h : sniff.collected.length < sniff.wanted) (hbs : bs ≠ [])
    (hpolled : Polled { sniff with collected := sniff.collected ++ bs } us result next) :
    sniff.Polled (.moved bs :: us) result next := by
  cases result with
  | ready result => exact .moved h hbs hpolled
  | pending =>
    obtain ⟨hwanted, hdropped, hlater⟩ := hpolled
    exact ⟨hwanted, .moved h hbs hdropped, fun later ending hreads =>
      .moved h hbs (hlater later ending hreads)⟩

end Polled

end Sniff

namespace Call

variable {σ : Type} [ByteStream σ] (c : Call)

def again (c : Call) : Nat → σ → σ
  | 0, s => s
  | n + 1, s => c.again n (c.ask s).next

def polls (c : Call) : Nat → σ → List Upshot
  | 0, _ => []
  | n + 1, s => c.upshot (c.ask s).answer :: c.polls n (c.ask s).next

/-- However often the call was made already, it is completed again if it is made often enough. -/
def EventuallyCompletes (s : σ) : Prop :=
  ∀ n, ∃ m, n ≤ m ∧ (c.upshot (c.ask (c.again m s)).answer).isCompleted = true

variable (s : σ)

private theorem again_add (m n : Nat) : c.again (m + n) s = c.again n (c.again m s) := by
  induction m generalizing s with
  | zero => rw [Nat.zero_add, again]
  | succ m ih => rw [Nat.succ_add, again, again, ih]

private theorem polls_add (m n : Nat) :
    c.polls (m + n) s = c.polls m s ++ c.polls n (c.again m s) := by
  induction m generalizing s with
  | zero => rw [Nat.zero_add, polls, again, List.nil_append]
  | succ m ih => rw [Nat.succ_add, polls, polls, again, ih, List.cons_append]

private theorem countP_polls_mono {m n : Nat} (h : m ≤ n) :
    (c.polls m s).countP Upshot.isCompleted ≤ (c.polls n s).countP Upshot.isCompleted := by
  obtain ⟨k, rfl⟩ := Nat.exists_eq_add_of_le h
  rw [polls_add, List.countP_append]
  exact Nat.le_add_right _ _

private theorem EventuallyCompletes.completed {c : Call} {s : σ} (h : c.EventuallyCompletes s)
    (k : Nat) :
    ∃ n, k ≤ (c.polls n s).countP Upshot.isCompleted := by
  induction k with
  | zero => exact ⟨0, Nat.zero_le _⟩
  | succ k ih =>
    obtain ⟨n, hn⟩ := ih
    obtain ⟨m, hm, hcompleted⟩ := h n
    have hmore := c.countP_polls_mono s hm
    refine ⟨m + 1, ?_⟩
    rw [polls_add, List.countP_append, polls, List.countP_cons_of_pos hcompleted]
    omega

private theorem length_polls (buffer : ReadBuffer) (n : Nat) :
    ∀ u ∈ (pollRead buffer).polls n s, u.bytes.length ≤ buffer.room := by
  induction n generalizing s with
  | zero => exact nofun
  | succ n ih =>
    refine List.forall_mem_cons.mpr ⟨?_, ih _⟩
    rcases ((pollRead buffer).ask s).answer with _ | e | fill
    · exact Nat.zero_le _
    · exact Nat.zero_le _
    · exact fill.property

end Call

namespace Script

def isSpent (s : Script) : Bool := s.reads.isEmpty && s.rest.isEmpty && s.due.isNone

private theorem ask_of_isSpent (buffer : ReadBuffer) {s : Script} (h : s.isSpent = true) :
    ((Call.pollRead buffer).upshot ((Call.pollRead buffer).ask s).answer).isCompleted = true ∧
      ((Call.pollRead buffer).ask s).next.isSpent = true := by
  obtain ⟨reads, _, _, _, _, _, _, _, _, rest, _, _, _, _, due, _⟩ := s
  simp only [isSpent, Bool.and_eq_true, List.isEmpty_iff, Option.isNone_iff_eq_none] at h
  obtain ⟨⟨rfl, rfl⟩, rfl⟩ := h
  exact ⟨rfl, rfl⟩

private theorem again_of_isSpent (buffer : ReadBuffer) {s : Script} (h : s.isSpent = true)
    (n : Nat) :
    ((Call.pollRead buffer).again n s).isSpent = true := by
  induction n generalizing s with
  | zero => exact h
  | succ n ih => exact ih (ask_of_isSpent buffer h).2

private theorem eventuallyCompletes_of_isSpent (buffer : ReadBuffer) (s : Script) (n : Nat)
    (h : ((Call.pollRead buffer).again n s).isSpent = true) :
    (Call.pollRead buffer).EventuallyCompletes s := by
  intro k
  refine ⟨n + k, Nat.le_add_left k n, ?_⟩
  rw [Call.again_add]
  exact (ask_of_isSpent buffer (again_of_isSpent buffer h k)).1

end Script

def Entry.upshot (e : Entry) : Upshot := e.call.outcome e.response

namespace Trace

variable {σ : Type} [ByteStream σ] (env : Surroundings)

/-- From one state to another, the same call was made again and again while the tap sniffed. The
stream answered, and what it delivered was queued and counted. -/
structure Account (c : Call) (r : Trace σ) (es : List Entry) (r' : Trace σ) : Prop where
  entries : r'.entries = r.entries ++ es
  calls : ∀ e ∈ es, e.call = c
  stream : r'.tap.inner.stream = c.again es.length r.tap.inner.stream
  upshots : es.map Entry.upshot = c.polls es.length r.tap.inner.stream
  queued : r'.tap.replay = r.tap.replay.append ((es.map Entry.upshot).flatMap Upshot.bytes)
  counted : r'.tap.monitor.recorder.sniffCount =
    r.tap.monitor.recorder.sniffCount + ((es.map Entry.upshot).filterMap Upshot.moved?).length

namespace Account

variable {c : Call} {r r' r'' : Trace σ} {es es' : List Entry}

private theorem nil (c : Call) (r : Trace σ) : Account c r [] r where
  entries := (List.append_nil _).symm
  calls _ he := absurd he List.not_mem_nil
  stream := rfl
  upshots := rfl
  queued := (r.tap.replay.append_nil).symm
  counted := rfl

private theorem append (h : Account c r es r') (h' : Account c r' es' r'') :
    Account c r (es ++ es') r'' where
  entries := by rw [h'.entries, h.entries, List.append_assoc]
  calls := List.forall_mem_append.mpr ⟨h.calls, h'.calls⟩
  stream := by rw [h'.stream, h.stream, List.length_append, Call.again_add]
  upshots := by
    rw [List.map_append, h.upshots, h'.upshots, h.stream, List.length_append, Call.polls_add]
  queued := by
    rw [h'.queued, h.queued, List.map_append, List.flatMap_append]
    simp [ReplayQueue.append]
  counted := by
    rw [h'.counted, h.counted, List.map_append, List.filterMap_append, List.length_append,
      Nat.add_assoc]

private theorem heed (h : Account c r es r') (stop : Stop) : Account c r es (r'.heed stop) where
  entries := h.entries
  calls := h.calls
  stream := h.stream
  upshots := h.upshots
  queued := h.queued
  counted := by
    have hcount : (r'.tap.monitor.heed stop).recorder.sniffCount =
        r'.tap.monitor.recorder.sniffCount := by
      rw [Monitor.heed_recorder]
      rfl
    exact hcount.trans h.counted

private theorem call (hread : c.isRead = true) (h : r.tap.monitor.sniffing = true) :
    Account c r [entry env c r.tap] (r.call env c).2 := by
  have hforwarded : c.isReplayed r.tap = false := Call.isReplayed_of_sniffing h
  have hcall := c.onTap_forwarded env r.tap hforwarded
  have hstream : c.ask r.tap.inner.stream = (c.ask r.tap.inner).forget :=
    c.ask_stream r.tap.inner
  have hupshot : (entry env c r.tap).upshot = c.upshot (c.ask r.tap.inner).answer := by
    rw [Entry.upshot]
    exact (congrArg c.outcome hcall.response).trans (c.outcome_respond _)
  have hsniffed : r.tap.sniffedIn (.call c) = (entry env c r.tap).upshot.moved? := by
    rw [Tap.sniffedIn, Call.sniffed?, h, hread, hupshot]
    rfl
  constructor
  case entries => rfl
  case calls => simp [entry]
  case stream =>
    change (c.onTap env r.tap).2.inner.stream = (c.ask r.tap.inner.stream).next
    rw [hcall.inner, hstream]
    rfl
  case upshots =>
    change [(entry env c r.tap).upshot] = [c.upshot (c.ask r.tap.inner.stream).answer]
    rw [hupshot, hstream, Reply.forget_answer]
  case queued =>
    have hreplay := r.tap.replay_forwarded env c hforwarded
    rw [hsniffed] at hreplay
    rw [List.map_singleton, List.flatMap_singleton]
    exact hreplay
  case counted =>
    have hcount := r.tap.call_sniffCount env c
    rw [hsniffed] at hcount
    refine hcount.trans ?_
    rw [List.map_singleton]
    cases (entry env c r.tap).upshot <;> rfl

end Account

section Sniffs

private theorem sniffing_reflects :
    (sniffSource (σ := σ) env).Reflects fun r => r.tap.monitor.sniffing = true where
  pollRead buffer _ h := Call.sniffing_of_onTap env (c := .pollRead buffer) h
  heed _ r h := r.tap.sniffing_of_heed h

variable {env}

private theorem account_pollRead {buffer : ReadBuffer} {r next : Trace σ}
    {response : Poll (Result ReadBuffer)}
    (hpoll : (sniffSource env).pollRead buffer r = (response, next))
    (h : r.tap.monitor.sniffing = true) : ∃ e, Account (.pollRead buffer) r [e] next ∧
      [e].map Entry.upshot = [(Call.pollRead buffer).outcome response] := by
  obtain ⟨hresponse, hnext⟩ := Prod.ext_iff.mp hpoll
  dsimp only at hresponse hnext
  subst hresponse hnext
  exact ⟨_, .call env rfl h, rfl⟩

private theorem resume_reads (sniff : Sniff) (r : Trace σ)
    (h : (sniff.resume (sniffSource env) r).2.2.tap.monitor.sniffing = true) :
    ∃ es, Account (.pollRead { room := sniff.chunk }) r es
        (sniff.resume (sniffSource env) r).2.2 ∧
      sniff.Polled (es.map Entry.upshot) (sniff.resume (sniffSource env) r).1
        (sniff.resume (sniffSource env) r).2.1 := by
  have hstart := Sniff.resume_reflects (sniffing_reflects env) sniff r h
  fun_induction Sniff.resume (sniffSource env) sniff r with
  | case1 sniff r hwants next hpoll =>
    obtain ⟨e, haccount, hread⟩ := account_pollRead hpoll hstart
    refine ⟨[e], haccount, ?_⟩
    rw [hread]
    exact .pending hwants
  | case2 sniff r hwants cause next hpoll =>
    obtain ⟨e, haccount, hread⟩ := account_pollRead hpoll hstart
    refine ⟨[e], haccount, ?_⟩
    rw [hread]
    exact .failed cause hwants
  | case3 sniff r hwants buffer next hpoll hended =>
    obtain ⟨e, haccount, hread⟩ := account_pollRead hpoll hstart
    refine ⟨[e], haccount, ?_⟩
    rw [hread, Call.outcome, hended]
    exact .ended hwants
  | case4 sniff r hwants buffer next hpoll hended ih =>
    obtain ⟨e, haccount, hread⟩ := account_pollRead hpoll hstart
    obtain ⟨es, hlater, hpolled⟩ :=
      ih h (Sniff.resume_reflects (sniffing_reflects env) _ next h)
    refine ⟨[e] ++ es, haccount.append hlater, ?_⟩
    rw [List.map_append, hread]
    exact .moved hwants hended hpolled
  | case5 sniff r hwants => exact ⟨[], .nil _ r, .enough (Nat.not_lt.mp hwants)⟩

private theorem Account.heedAll {c : Call} {r r' : Trace σ} {es : List Entry}
    (h : Account c r es r')
    (stops : List Stop) : Account c r es
      (stops.foldl (fun r stop => (sniffSource env).heed stop r) r') :=
  Sniff.heedAll_keeps (P := Account c r es) (fun stop _ hr => hr.heed stop) stops r' h

private theorem drive_reads (sniff : Sniff) (r : Trace σ) (pauses : List (List Stop))
    (h : (sniff.drive (sniffSource env) r pauses).2.tap.monitor.sniffing = true) :
    ∃ es, Account (.pollRead { room := sniff.chunk }) r es
        (sniff.drive (sniffSource env) r pauses).2 ∧
      Sniff.Reads sniff.wanted sniff.collected (es.map Entry.upshot)
        (sniff.drive (sniffSource env) r pauses).1 ∧
      ((sniff.drive (sniffSource env) r pauses).1 = .cancelled → pauses.length < es.length) := by
  -- A sniff that is dropped was polled once more than it was paused.
  induction pauses generalizing sniff r with
  | nil =>
    obtain ⟨es, haccount, hpolled⟩ :=
      resume_reads sniff r (Sniff.reflects_poll (sniffing_reflects env) sniff r [] h)
    rw [Sniff.drive]
    rcases hresume : sniff.resume (sniffSource env) r with ⟨_ | result, next, r'⟩ <;>
      rw [hresume] at haccount hpolled
    · obtain ⟨-, hdropped, -⟩ := hpolled
      refine ⟨es, haccount, hdropped, fun _ => ?_⟩
      simpa using List.length_pos_iff.mpr hdropped.ne_nil
    · exact ⟨es, haccount, hpolled, fun hcancelled => by cases hcancelled⟩
  | cons stops pauses ih =>
    obtain ⟨es, haccount, hpolled⟩ :=
      resume_reads sniff r (Sniff.reflects_poll (sniffing_reflects env) sniff r (stops :: pauses) h)
    rw [Sniff.drive] at h ⊢
    rcases hresume : sniff.resume (sniffSource env) r with ⟨_ | result, next, r'⟩ <;>
      rw [hresume] at h haccount hpolled
    · obtain ⟨hwanted, hdropped, hlater⟩ := hpolled
      obtain ⟨es', haccount', hreads, hlength⟩ := ih next _ h
      have hchunk : next.chunk = sniff.chunk := by rw [Sniff.chunk, Sniff.chunk, hwanted]
      rw [hchunk] at haccount'
      refine ⟨es ++ es', (haccount.heedAll stops).append haccount', ?_, ?_⟩
      · rw [List.map_append]
        exact hlater _ _ (hwanted ▸ hreads)
      · intro hcancelled
        have hone : 0 < es.length := by simpa using List.length_pos_iff.mpr hdropped.ne_nil
        have hrest := hlength hcancelled
        rw [List.length_cons, List.length_append]
        omega
    · exact ⟨es, haccount, hpolled, fun hcancelled => by cases hcancelled⟩

private theorem run_reads {wanted : Nat} (hwanted : wanted < Sniff.tooLarge) {r : Trace σ}
    (hstart : r.tap.monitor.sniffing = true) (pauses : List (List Stop))
    (h : (Sniff.run (sniffSource env) wanted pauses r).2.tap.monitor.sniffing = true) :
    ∃ es, Account (.pollRead { room := max 1 (min wanted 4096) }) r es
        (Sniff.run (sniffSource env) wanted pauses r).2 ∧
      Sniff.Reads wanted [] (es.map Entry.upshot)
        (Sniff.run (sniffSource env) wanted pauses r).1 ∧
      ((Sniff.run (sniffSource env) wanted pauses r).1 = .cancelled →
        pauses.length < es.length) := by
  have hbegin : Sniff.begin ((sniffSource env).isSniffing r) wanted =
      .returned (.ok { wanted }) := by
    change Sniff.begin r.tap.monitor.sniffing wanted = _
    rw [Sniff.begin, if_pos hstart, if_pos hwanted]
  have hrun : Sniff.run (sniffSource env) wanted pauses r =
      Sniff.drive (sniffSource env) { wanted } r pauses := by
    rw [Sniff.run, hbegin]
  rw [hrun] at h ⊢
  exact drive_reads { wanted } r pauses h

private theorem run_not_cancelled {wanted : Nat} (hwanted : wanted < Sniff.tooLarge) {r : Trace σ}
    (hstart : r.tap.monitor.sniffing = true)
    (hcompletes : (Call.pollRead { room := max 1 (min wanted 4096) }).EventuallyCompletes
      r.tap.inner.stream) :
    ∃ n, ∀ pauses, n ≤ pauses.length →
      (Sniff.run (sniffSource env) wanted pauses r).2.tap.monitor.sniffing = true →
      (Sniff.run (sniffSource env) wanted pauses r).1 ≠ .cancelled := by
  obtain ⟨n, hn⟩ := hcompletes.completed wanted
  refine ⟨n, ?_⟩
  intro pauses hpauses hstill hcancelled
  obtain ⟨es, haccount, hreads, hlength⟩ := run_reads hwanted hstart pauses hstill
  rw [hcancelled] at hreads
  have hpolls : n ≤ es.length := Nat.le_trans hpauses (Nat.le_of_lt (hlength hcancelled))
  have hmany := Call.countP_polls_mono (.pollRead { room := max 1 (min wanted 4096) })
    r.tap.inner.stream hpolls
  rw [← haccount.upshots] at hmany
  exact absurd (Nat.le_trans hn hmany) (Nat.not_le.mpr hreads.completed_lt)

variable (env)

/-- A sniff that is not stopped makes at most as many reads that are completed as it wants bytes,
and none in vain. What it yields is enough unless the last read found the end, and exceeds what is
wanted by less than a chunk; the error of a read is passed on. However it ends, just what its reads
brought is queued, and each of its successful reads is counted. It does end, if the stream does not
stay pending and the sniff is polled for long enough. -/
theorem sniff_reads_just_enough (s : σ) (id : Uuid) (settings : SniffSettings) (ops : List Op)
    (wanted : Nat) (hwanted : wanted < Sniff.tooLarge)
    (h : ((start s id settings).after env ops).tap.monitor.sniffing = true) :
    let r := (start s id settings).after env ops
    let read := Call.pollRead { room := max 1 (min wanted 4096) }
    (∀ pauses,
      let ending := (Sniff.run (sniffSource env) wanted pauses r).1
      let r' := (Sniff.run (sniffSource env) wanted pauses r).2
      Sniff.run (Tap.sniffSource env) wanted pauses ((Tap.wrap s id settings).after env ops) =
          (ending, r'.tap.forget) ∧
        (r'.tap.monitor.sniffing = true → ∃ es, Account read r es r' ∧
          Sniff.JustEnough wanted (es.map Entry.upshot) ending)) ∧
      (read.EventuallyCompletes r.tap.inner.stream → ∃ n, ∀ pauses, n ≤ pauses.length →
        (Sniff.run (sniffSource env) wanted pauses r).2.tap.monitor.sniffing = true →
        (Sniff.run (sniffSource env) wanted pauses r).1 ≠ .cancelled) := by
  intro r read
  refine ⟨?_, run_not_cancelled hwanted h⟩
  intro pauses ending r'
  have hforget := run_forget env wanted pauses r
  have hplain : r.tap.forget = (Tap.wrap s id settings).after env ops := after_forget env _ ops
  rw [hplain] at hforget
  refine ⟨hforget, ?_⟩
  intro hstill
  obtain ⟨es, haccount, hreads, -⟩ := run_reads hwanted h pauses hstill
  have hfits := Call.length_polls r.tap.inner.stream { room := max 1 (min wanted 4096) } es.length
  rw [← haccount.upshots] at hfits
  exact ⟨es, haccount, hreads.justEnough hfits⟩

/-- A stream that delivers its bytes in pieces and lets its reader wait in between. -/
def piecemeal : Script :=
  { reads := [{ act := .data [97] }, { act := .data [98] }, { act := .pending },
      { act := .data [99, 100] }, { act := .pending }, { act := .data [101, 102, 103] }] }

/-- Three reads and two waits give a sniff for four bytes two more than that. -/
theorem sniff_reads_just_enough_piecemeal :
    let r := (start piecemeal .zero {}).after .ticking [.call (.read 1)]
    let read := Call.pollRead { room := 4 }
    let ending := (Sniff.run (sniffSource .ticking) 4 [[.copying], []] r).1
    let r' := (Sniff.run (sniffSource .ticking) 4 [[.copying], []] r).2
    r.tap.monitor.sniffing = true ∧ ending = .done (.ok [98, 99, 100, 101, 102, 103]) ∧
      (∃ es, Account read r es r' ∧ Sniff.JustEnough 4 (es.map Entry.upshot) ending) ∧
      r'.tap.replay.stored = [97, 98, 99, 100, 101, 102, 103] ∧
      ∃ n, ∀ pauses, n ≤ pauses.length →
        (Sniff.run (sniffSource .ticking) 4 pauses r).2.tap.monitor.sniffing = true →
        (Sniff.run (sniffSource .ticking) 4 pauses r).1 ≠ .cancelled := by
  intro r read ending r'
  have hsniffing : r.tap.monitor.sniffing = true := by decide +kernel
  have hending : ending = .done (.ok [98, 99, 100, 101, 102, 103]) := by decide +kernel
  have hstill : r'.tap.monitor.sniffing = true := by decide +kernel
  have hstored : r'.tap.replay.stored = [97, 98, 99, 100, 101, 102, 103] := by decide +kernel
  have hcompletes : read.EventuallyCompletes r.tap.inner.stream :=
    Script.eventuallyCompletes_of_isSpent { room := 4 } _ 5 (by decide +kernel)
  obtain ⟨hpauses, hends⟩ :=
    sniff_reads_just_enough .ticking piecemeal .zero {} [.call (.read 1)] 4 (by decide) hsniffing
  exact ⟨hsniffing, hending, (hpauses [[.copying], []]).2 hstill, hstored, hends hcompletes⟩

end Sniffs

end Trace

end PeekRelay
