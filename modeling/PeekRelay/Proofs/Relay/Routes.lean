import PeekRelay.Proofs.Fidelity
import PeekRelay.Proofs.Relay.Pump
import PeekRelay.Relay.Session
/-!
# The two routes of a session

Each direction of a session has a ledger, and the calls of either route keep both: those that read
one stream and write the other do not disturb the direction that runs the other way.
-/
namespace PeekRelay.Relay

variable {σ υ : Type}

/-- The ledgers of a session that copies say what was handed out of the client and accepted by the
target, and the other way round. -/
structure LedgersMatch (up down : Ledger) (t : Tap (Logged σ)) (u : Logged υ) : Prop where
  stopped : t.monitor.sniffing = false
  taken : Faithful t up.handed
  sent : u.accepted = up.accepted
  upEnded : up.ended = true → t.replay.waiting = [] ∧ t.inner.InputEnded
  received : u.delivered = down.handed
  answered : t.inner.accepted = down.accepted
  downEnded : down.ended = true → u.InputEnded

namespace LedgersMatch

variable {up down : Ledger} {t : Tap (Logged σ)} {u : Logged υ}

theorem heed (h : LedgersMatch up down t u) (stop : Stop) :
    LedgersMatch up down (t.heed stop) u where
  stopped := by rw [Tap.heed_sniffing, h.stopped, Bool.false_and]
  taken := h.taken.heed stop
  sent := h.sent
  upEnded := h.upEnded
  received := h.received
  answered := h.answered
  downEnded := h.downEnded

section Client

variable [ByteStream σ] (env : Surroundings)

private theorem clientCall (h : LedgersMatch up down t u) (c : Call) (hc : c.isRead = false) :
    LedgersMatch up (down.accept (c.accepted (c.ask t.inner).answer))
      (c.onTap env t).2 u := by
  have hreplayed : c.isReplayed t = false := by rw [Call.isReplayed, hc, Bool.false_and]
  obtain ⟨-, hinner, hreplay, -⟩ := c.onTap_forwarded env t hreplayed
  constructor
  case stopped => exact Call.onTap_stopped env h.stopped
  case taken =>
    have htaken := h.taken.call_stopped h.stopped env c
    rwa [c.handed_eq_nil hc, List.append_nil] at htaken
  case sent => exact h.sent
  case upEnded =>
    intro hended
    obtain ⟨hwaiting, hinput⟩ := h.upEnded hended
    rw [hinner, hreplay, h.stopped]
    exact ⟨hwaiting, hinput.ask c hc⟩
  case received => exact h.received
  case answered =>
    rw [hinner, Logged.accepted_next, h.answered]
    rfl
  case downEnded => exact h.downEnded

private theorem clientRead (h : LedgersMatch up down t u) (buffer : ReadBuffer) (ended : Bool)
    (hended : ended = true → (t.pollRead env buffer).2.replay.waiting = [] ∧
      (t.pollRead env buffer).2.inner.InputEnded) :
    LedgersMatch { up with
        handed := up.handed ++ (Call.pollRead buffer).handed (t.pollRead env buffer).1, ended }
      down (t.pollRead env buffer).2 u where
  stopped := Call.onTap_stopped (c := .pollRead buffer) env h.stopped
  taken := h.taken.call_stopped h.stopped env (.pollRead buffer)
  sent := h.sent
  upEnded := hended
  received := h.received
  answered := by
    change ((Call.pollRead buffer).onTap env t).2.inner.accepted = _
    cases hreplayed : (Call.pollRead buffer).isReplayed t with
    | false =>
      rw [((Call.pollRead buffer).onTap_forwarded env t hreplayed).inner, Logged.accepted_next,
        Call.accepted_eq_nil _ rfl, List.append_nil, h.answered]
    | true => rw [((Call.pollRead buffer).onTap_replayed env t hreplayed).inner, h.answered]
  downEnded := h.downEnded

private theorem clientEnded (hstopped : t.monitor.sniffing = false) {buffer : ReadBuffer}
    (hroom : 0 < buffer.room) {fill : Fill buffer.room} (hnone : fill.val = [])
    (hready : (t.pollRead env buffer).1 = .ready (.ok (buffer.put fill))) :
    (t.pollRead env buffer).2.replay.waiting = [] ∧
      (t.pollRead env buffer).2.inner.InputEnded := by
  cases hreplayed : (Call.pollRead buffer).isReplayed t with
  | false =>
    have hforwarded := (Call.pollRead buffer).onTap_forwarded env t hreplayed
    obtain ⟨fill', hanswer, hput⟩ := Call.respond_ready (hforwarded.response.symm.trans hready)
    have hsame : fill'.val = fill.val :=
      (List.append_cancel_left (congrArg ReadBuffer.filled hput)).symm
    have hreplay : (t.pollRead env buffer).2.replay = _ := hforwarded.replay
    have hinner : (t.pollRead env buffer).2.inner = _ := hforwarded.inner
    rw [hreplay, hinner, hstopped]
    refine ⟨Call.waiting_of_not_isReplayed hreplayed rfl hstopped, ?_⟩
    exact Logged.inputEnded_pollRead hanswer hroom (hsame.trans hnone)
  | true =>
    have hhanded : (Call.pollRead buffer).handed (t.pollRead env buffer).1 = fill.val := by
      rw [hready]
      exact List.drop_left
    have hfront : (Call.pollRead buffer).handed (t.pollRead env buffer).1 = _ :=
      ((Call.pollRead buffer).onTap_replayed env t hreplayed).handed
    rw [hhanded, hnone] at hfront
    rcases List.take_eq_nil_iff.mp hfront.symm with hzero | hnothing
    · exact absurd hzero (Nat.ne_of_gt hroom)
    · exact absurd hnothing (Call.waiting_of_isReplayed hreplayed)

private theorem clientCall_idle (h : LedgersMatch up down t u) (c : Call) (hc : c.isRead = false)
    (hnone : c.accepted (c.ask t.inner).answer = []) :
    LedgersMatch up down (c.onTap env t).2 u := by
  have hcall := h.clientCall env c hc
  rwa [hnone, Ledger.accept_nil] at hcall

private theorem clientRead_ready (h : LedgersMatch up down t u) {buffer : ReadBuffer}
    (hroom : 0 < buffer.room)
    {fill : Fill buffer.room}
    (hready : (t.pollRead env buffer).1 = .ready (.ok (buffer.put fill))) :
    LedgersMatch (up.hand fill.val) down (t.pollRead env buffer).2 u := by
  have hhanded : (Call.pollRead buffer).handed (t.pollRead env buffer).1 = fill.val := by
    rw [hready]
    exact List.drop_left
  have hread := h.clientRead env buffer fill.val.isEmpty fun hnone =>
    clientEnded env h.stopped hroom (List.isEmpty_iff.mp hnone) hready
  rwa [hhanded] at hread

private theorem clientRead_idle (h : LedgersMatch up down t u) (hended : up.ended = false)
    (buffer : ReadBuffer)
    (hnone : (Call.pollRead buffer).handed (t.pollRead env buffer).1 = []) :
    LedgersMatch up down (t.pollRead env buffer).2 u := by
  have hread := h.clientRead env buffer false nofun
  rwa [hnone, List.append_nil, ← hended] at hread

end Client

section Target

variable [ByteStream υ]

private theorem heedAll_stopped (h : t.monitor.sniffing = false) (stops : List Stop) :
    (t.monitor.heedAll stops).sniffing = false := by
  rw [Monitor.heedAll_sniffing, h, Bool.false_and]

private theorem heedAll_faithful {taken : Bytes} (h : Faithful t taken)
    (hstopped : t.monitor.sniffing = false) (stops : List Stop) :
    Faithful { t with monitor := t.monitor.heedAll stops } taken :=
  h.observed fun hstill => by rw [heedAll_stopped hstopped] at hstill; cases hstill

private theorem targetCall (h : LedgersMatch up down t u) (c : Call) (hc : c.isRead = false) :
    LedgersMatch (up.accept (c.accepted (c.ask u).answer)) down
      { t with monitor := t.monitor.heedAll (c.ask u).stops } (c.ask u).next where
  stopped := heedAll_stopped h.stopped _
  taken := heedAll_faithful h.taken h.stopped _
  sent := by
    rw [Logged.accepted_next, h.sent]
    rfl
  upEnded := h.upEnded
  received := by
    rw [Logged.delivered_next, c.delivered_eq_nil hc, List.append_nil]
    exact h.received
  answered := h.answered
  downEnded hended := (h.downEnded hended).ask c hc

private theorem targetRead (h : LedgersMatch up down t u) (buffer : ReadBuffer) (ended : Bool)
    (hended : ended = true → ((Call.pollRead buffer).ask u).next.InputEnded) :
    LedgersMatch up
      { down with
        handed :=
          down.handed ++ (Call.pollRead buffer).delivered ((Call.pollRead buffer).ask u).answer
        ended }
      { t with monitor := t.monitor.heedAll ((Call.pollRead buffer).ask u).stops }
      ((Call.pollRead buffer).ask u).next where
  stopped := heedAll_stopped h.stopped _
  taken := heedAll_faithful h.taken h.stopped _
  sent := by
    rw [Logged.accepted_next, Call.accepted_eq_nil _ rfl, List.append_nil]
    exact h.sent
  upEnded := h.upEnded
  received := by rw [Logged.delivered_next, h.received]
  answered := h.answered
  downEnded := hended

private theorem targetCall_idle (h : LedgersMatch up down t u) (c : Call) (hc : c.isRead = false)
    (hnone : c.accepted (c.ask u).answer = []) :
    LedgersMatch up down { t with monitor := t.monitor.heedAll (c.ask u).stops }
      (c.ask u).next := by
  have hcall := h.targetCall c hc
  rwa [hnone, Ledger.accept_nil] at hcall

private theorem targetRead_ready (h : LedgersMatch up down t u) {buffer : ReadBuffer}
    (hroom : 0 < buffer.room)
    {fill : Fill buffer.room}
    (hready : ((Call.pollRead buffer).ask u).answer = .ready (.ok fill)) :
    LedgersMatch up (down.hand fill.val)
      { t with monitor := t.monitor.heedAll ((Call.pollRead buffer).ask u).stops }
      ((Call.pollRead buffer).ask u).next := by
  have hread := h.targetRead buffer fill.val.isEmpty fun hnone =>
    Logged.inputEnded_pollRead hready hroom (List.isEmpty_iff.mp hnone)
  rwa [hready] at hread

private theorem targetRead_idle (h : LedgersMatch up down t u) (hended : down.ended = false)
    (buffer : ReadBuffer)
    (hnone : (Call.pollRead buffer).delivered ((Call.pollRead buffer).ask u).answer = []) :
    LedgersMatch up down
      { t with monitor := t.monitor.heedAll ((Call.pollRead buffer).ask u).stops }
      ((Call.pollRead buffer).ask u).next := by
  have hread := h.targetRead buffer false nofun
  rwa [hnone, List.append_nil, ← hended] at hread

end Target

end LedgersMatch

section Routes

variable [ByteStream σ] [ByteStream υ] (env : Surroundings)

theorem toTarget_keeps (down : Ledger) :
    (toTarget env).Keeps fun l (state : Tap (Logged σ) × Logged υ) =>
      LedgersMatch l down state.1 state.2 where
  read {l state} buffer h hended hroom := by
    obtain ⟨t, u⟩ := state
    have hroute : (toTarget env).read buffer (t, u) =
      ((t.pollRead env buffer).1, (t.pollRead env buffer).2, u) := rfl
    rw [hroute]
    rcases hresponse : (t.pollRead env buffer).1 with _ | e | b
    · exact h.clientRead_idle env hended buffer (by rw [hresponse]; rfl)
    · exact h.clientRead_idle env hended buffer (by rw [hresponse]; rfl)
    · obtain ⟨fill, rfl⟩ := Call.pollRead_ready env t buffer hresponse
      exact ⟨fill.val, rfl, h.clientRead_ready env hroom hresponse⟩
  write {l state} data h := by
    obtain ⟨t, u⟩ := state
    have hroute : (toTarget env).write data (t, u) = (((Call.pollWrite data).ask u).answer,
      { t with monitor := t.monitor.heedAll ((Call.pollWrite data).ask u).stops },
      ((Call.pollWrite data).ask u).next) := rfl
    rw [hroute]
    rcases hanswer : ((Call.pollWrite data).ask u).answer with _ | e | n
    · exact h.targetCall_idle (.pollWrite data) rfl (by rw [hanswer]; rfl)
    · exact h.targetCall_idle (.pollWrite data) rfl (by rw [hanswer]; rfl)
    · have hwrite := h.targetCall (.pollWrite data) rfl
      rwa [hanswer] at hwrite
  flush {l state} h := h.targetCall_idle .pollFlush rfl rfl
  shutdown {l state} h := h.targetCall_idle .pollShutdown rfl rfl

theorem toClient_read (buffer : ReadBuffer) (t : Tap σ) (u : υ) :
    (toClient env).read buffer (t, u) =
      ((Call.pollRead buffer).respond ((Call.pollRead buffer).ask u).answer,
        { t with monitor := t.monitor.heedAll ((Call.pollRead buffer).ask u).stops },
        ((Call.pollRead buffer).ask u).next) := by
  have hrespond (answer : (Call.pollRead buffer).Answer) : (match answer with
      | .pending => .pending
      | .ready (.error e) => .ready (.error e)
      | .ready (.ok fill) => .ready (.ok (buffer.put fill))) =
      (Call.pollRead buffer).respond answer := by
    rcases answer with _ | e | fill <;> rfl
  exact congrArg (·, _, _) (hrespond _)

theorem toClient_keeps (up : Ledger) :
    (toClient env).Keeps fun l (state : Tap (Logged σ) × Logged υ) =>
      LedgersMatch up l state.1 state.2 where
  read {l state} buffer h hended hroom := by
    obtain ⟨t, u⟩ := state
    rw [toClient_read]
    rcases hanswer : ((Call.pollRead buffer).ask u).answer with _ | e | fill
    · exact h.targetRead_idle hended buffer (by rw [hanswer]; rfl)
    · exact h.targetRead_idle hended buffer (by rw [hanswer]; rfl)
    · exact ⟨fill.val, rfl, h.targetRead_ready hroom hanswer⟩
  write {l state} data h := by
    obtain ⟨t, u⟩ := state
    have hroute : (toClient env).write data (t, u) = ((t.pollWrite env data).1,
      (t.pollWrite env data).2, u) := rfl
    have hresponse : (t.pollWrite env data).1 = ((Call.pollWrite data).ask t.inner).answer :=
      ((Call.pollWrite data).onTap_forwarded env t rfl).response
    rw [hroute, hresponse]
    rcases hanswer : ((Call.pollWrite data).ask t.inner).answer with _ | e | n
    · exact h.clientCall_idle env (.pollWrite data) rfl (by rw [hanswer]; rfl)
    · exact h.clientCall_idle env (.pollWrite data) rfl (by rw [hanswer]; rfl)
    · have hwrite := h.clientCall env (.pollWrite data) rfl
      rwa [hanswer] at hwrite
  flush {l state} h := h.clientCall_idle env .pollFlush rfl rfl
  shutdown {l state} h := h.clientCall_idle env .pollShutdown rfl rfl

end Routes

end PeekRelay.Relay
