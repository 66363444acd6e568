import GBServer.MediaService

namespace GBServer.StunTransports

open Foundation.Runs
open GBServer.RtcService

/-- The endpoint that the packet names, if any, has the present time as its last STUN
time already. -/
def SameTime {Stun : Type*} (api : StunApi Stun) (s : RtcService) (data : List UInt8)
    (nowMs : Int) : Prop :=
  ∀ i, s.namedInterface api data = some i → (s.interfaces i).rtcStunTimestamp = nowMs

section Service

variable {Stun : Type*} (api : StunApi Stun) (s : RtcService) (data : List UInt8)
  (addr : SocketAddress) (nowMs : Int)

theorem onStun_snd_eq (transport transport' : Transport) :
    (onStun api transport s data addr nowMs).2 = (onStun api transport' s data addr nowMs).2 := by
  simp only [onStun]
  split
  · rfl
  · split <;> rfl

theorem bound_tcp_eq_udp_iff (x : RtcInterface) :
    bound x .tcp addr nowMs = bound x .udp addr nowMs ↔ x.rtcStunTimestamp = nowMs := by
  constructor
  · intro h
    exact congrArg RtcInterface.rtcStunTimestamp h
  · rintro rfl
    rfl

theorem onStun_fst_agree_iff :
    (onStun api .tcp s data addr nowMs).1 = (onStun api .udp s data addr nowMs).1 ↔
      SameTime api s data nowMs := by
  cases hnamed : s.namedInterface api data with
  | none =>
      rw [onStun_fst_of_none api .tcp addr nowMs hnamed,
        onStun_fst_of_none api .udp addr nowMs hnamed]
      apply iff_of_true rfl
      intro i hi
      rw [hnamed] at hi
      cases hi
  | some i =>
      rw [onStun_fst_of_some api .tcp addr nowMs hnamed,
        onStun_fst_of_some api .udp addr nowMs hnamed, SameTime]
      simp only [hnamed, Option.some.injEq, forall_eq']
      constructor
      · intro h
        have hi := congrFun (congrArg RtcService.interfaces h) i
        simp only [if_true] at hi
        exact (bound_tcp_eq_udp_iff addr nowMs _).mp hi
      · intro h
        rw [(bound_tcp_eq_udp_iff addr nowMs _).mpr h]

theorem onStun_agree_iff :
    onStun api .tcp s data addr nowMs = onStun api .udp s data addr nowMs ↔
      SameTime api s data nowMs := by
  rw [← onStun_fst_agree_iff api s data addr nowMs, Prod.ext_iff]
  exact and_iff_left (onStun_snd_eq api s data addr nowMs .tcp .udp)

end Service

/-- The input with its STUN packet carried by this transport. -/
def carry (transport : Transport) : GbMediaService.Input → GbMediaService.Input
  | .stun k _ data addr nowMs => .stun k transport data addr nowMs
  | input => input

def stepOver {Stun : Type*} (api : MediaApi Stun) (transport : Transport) (s : GbMediaService)
    (input : GbMediaService.Input) : Except Foundation.Memory.Fault GbMediaService :=
  s.step api (carry transport input)

def TimeKept {Stun : Type*} (api : MediaApi Stun) (s : GbMediaService) :
    GbMediaService.Input → Prop
  | .stun k _ data _ nowMs => SameTime api.toStunApi (s.rtcServices k) data nowMs
  | _ => True

theorem stepOver_agree_iff {Stun : Type*} (api : MediaApi Stun) (s : GbMediaService)
    (input : GbMediaService.Input) :
    stepOver api .tcp s input = stepOver api .udp s input ↔ TimeKept api s input := by
  cases input with
  | stun k transport data addr nowMs =>
      rw [TimeKept, ← onStun_fst_agree_iff api.toStunApi (s.rtcServices k) data addr nowMs]
      simp only [stepOver, carry, GbMediaService.step, GbMediaService.onStun, Except.ok.injEq]
      constructor
      · intro h
        have hk := congrFun (congrArg GbMediaService.rtcServices h) k
        simpa only [Function.update_self] using hk
      · intro h
        rw [h]
  | _ => exact iff_of_true rfl trivial

theorem guarded_agree_iff {Stun : Type*} (api : MediaApi Stun)
    (p : Except Foundation.Memory.Fault GbMediaService) (input : GbMediaService.Input) :
    guarded (stepOver api .tcp) p input = guarded (stepOver api .udp) p input ↔
      OnOk (fun s => TimeKept api s input) p := by
  cases p with
  | error fault => simp
  | ok s => simpa using stepOver_agree_iff api s input

/-- The two paths agree on a packet exactly when it names no endpoint, or one that had a
STUN packet at this time; and a run over TCP is the run over UDP, ticks of the session
timers included, exactly when they agree on every packet of it. -/
theorem transports_agree_iff {Stun : Type*} (api : MediaApi Stun) :
    (∀ (s : RtcService) (data : List UInt8) (addr : SocketAddress) (nowMs : Int),
        onStun api.toStunApi .tcp s data addr nowMs = onStun api.toStunApi .udp s data addr nowMs ↔
          SameTime api.toStunApi s data nowMs) ∧
      ∀ (s : GbMediaService) (inputs : List GbMediaService.Input),
        (∀ front back, inputs = front ++ back →
            run (guarded (stepOver api .tcp)) (.ok s) front =
              run (guarded (stepOver api .udp)) (.ok s) front) ↔
          Admitted (guarded (stepOver api .udp))
            (fun p input => OnOk (fun s => TimeKept api s input) p) (.ok s) inputs := by
  constructor
  · exact onStun_agree_iff api.toStunApi
  · intro s inputs
    rw [runs_agree_iff]
    simp only [guarded_agree_iff]

/-- The first packet of an endpoint sets its time over UDP alone. -/
theorem not_transports_agree :
    ¬ ∀ (s : RtcService) (data : List UInt8) (addr : SocketAddress) (nowMs : Int),
      onStun usernameFirst .tcp s data addr nowMs =
        onStun usernameFirst .udp s data addr nowMs := by
  intro hclaim
  have hagree := hclaim (reached usernameFirst twoEndpoints [.register 0])
    (bindingRequest [0x61, 0x61]) ⟨"192.0.2.1", 5000⟩ 10
  have htime := congrArg (fun p => (p.1.interfaces 0).rtcStunTimestamp) hagree
  revert htime
  decide

end GBServer.StunTransports
