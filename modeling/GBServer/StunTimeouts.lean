import GBServer.EndpointTimes

namespace GBServer.StunTimeouts

open Foundation.Memory
open Foundation.Runs
open GBServer.GbMediaService

/-- What has been seen so far: the time, and for each endpoint the time of its last STUN
packet over any transport and over UDP. -/
structure StunHistory where
  now : Int := 0
  lastStun : ResourceId → Option Int := fun _ => none
  lastUdp : ResourceId → Option Int := fun _ => none

def StunHistory.stun (history : StunHistory) (i : ResourceId) (transport : Transport)
    (nowMs : Int) : StunHistory :=
  { history with
    lastStun := Function.update history.lastStun i (some nowMs)
    lastUdp :=
      match transport with
      | .udp => Function.update history.lastUdp i (some nowMs)
      | .tcp => history.lastUdp }

def noteStun {Stun : Type*} (api : MediaApi Stun) (s : GbMediaService) (history : StunHistory)
    (input : Input) : StunHistory :=
  let history := { history with now := (inputTime input).getD history.now }
  match input with
  | .stun k transport data _ nowMs =>
      match (s.rtcServices k).namedInterface api.toStunApi data with
      | none => history
      | some i => history.stun i transport nowMs
  | _ => history

theorem lastUdp_stun (history : StunHistory) (i j : ResourceId) (transport : Transport)
    (nowMs : Int) :
    (history.stun j transport nowMs).lastUdp i =
      if i = j ∧ transport = .udp then some nowMs else history.lastUdp i := by
  cases transport with
  | udp =>
      change Function.update history.lastUdp j _ i = _
      rw [Function.update_apply]
      simp
  | tcp => simp [StunHistory.stun]

theorem noteStun_now {Stun : Type*} (api : MediaApi Stun) (s : GbMediaService)
    (history : StunHistory) (input : Input) :
    (noteStun api s history input).now = (inputTime input).getD history.now := by
  cases input with
  | stun k transport data addr nowMs =>
      simp only [noteStun]
      split <;> rfl
  | _ => rfl

def observed {Stun : Type*} (api : MediaApi Stun) :
    GbMediaService × StunHistory → Input → Except Fault (GbMediaService × StunHistory) :=
  observeGuarded (step api) (noteStun api)

/-- The later of the creation and the last STUN packet of the endpoint. -/
def aliveSince (p : GbMediaService × StunHistory) (i : ResourceId) : Int :=
  match p.2.lastStun i with
  | none => (p.1.resources i).startTimestamp
  | some t => max (p.1.resources i).startTimestamp t

def RtcOf (s : GbMediaService) (sid : SessionId) (i : ResourceId) : Prop :=
  (s.sessionHeap sid).Has i ∧ s.IsRtc i

/-- A tick takes an endpoint down only if the timeout has passed since the endpoint was
last alive, and takes it down if more time than that has passed. -/
def TickKept (p : GbMediaService × StunHistory) : Input → Prop
  | .tick sid nowMs =>
      ∀ i, RtcOf p.1 sid i →
        (¬ ((p.1.checkTimeOut sid nowMs).sessionHeap sid).Has i →
            aliveSince p i + p.1.config.timeoutMs ≤ nowMs) ∧
          (aliveSince p i + p.1.config.timeoutMs < nowMs →
            ¬ ((p.1.checkTimeOut sid nowMs).sessionHeap sid).Has i)
  | _ => True

/-- At a tick, every RTC endpoint of the session has had a STUN packet over UDP within
the timeout (or the server itself was started within it), or has not been alive for as
long. -/
def Heard (p : GbMediaService × StunHistory) : Input → Prop
  | .tick sid nowMs =>
      ∀ i, RtcOf p.1 sid i →
        nowMs ≤ (p.2.lastUdp i).getD 0 + p.1.config.timeoutMs ∨
          aliveSince p i + p.1.config.timeoutMs ≤ nowMs
  | _ => True

/-- The clock does not run backwards. -/
def ClockRuns (p : GbMediaService × StunHistory) (input : Input) : Prop :=
  ∀ t, inputTime input = some t → p.2.now ≤ t

theorem admitted_clockRuns {Stun : Type*} (api : MediaApi Stun) {inputs : List Input}
    {p : Except Fault (GbMediaService × StunHistory)}
    (hclock : OnOk (fun p => (p.2.now :: inputs.filterMap inputTime).Pairwise (· ≤ ·)) p) :
    Admitted (guarded (observed api)) (fun p input => OnOk (fun p => ClockRuns p input) p) p
      inputs := by
  induction inputs generalizing p with
  | nil => exact admitted_nil
  | cons input rest ih =>
      rw [admitted_cons]
      cases p with
      | error fault => exact ⟨onOk_error, ih onOk_error⟩
      | ok p =>
          rw [onOk_ok] at hclock ⊢
          rw [guarded_ok]
          constructor
          · intro t ht
            rw [List.filterMap_cons_some ht, List.pairwise_cons] at hclock
            exact hclock.1 t List.mem_cons_self
          · apply ih
            rw [observed, onOk_observeGuarded]
            intro t _
            dsimp only
            rw [noteStun_now]
            cases htime : inputTime input with
            | none =>
                rw [List.filterMap_cons_none htime] at hclock
                exact hclock
            | some t =>
                rw [List.filterMap_cons_some htime, List.pairwise_cons] at hclock
                exact hclock.2

structure Timed (p : GbMediaService × StunHistory) : Prop where
  linked : p.1.Linked
  now : 0 ≤ p.2.now
  created : ∀ i < p.1.nextResource, 0 ≤ (p.1.resources i).startTimestamp
  stunTime : ∀ i, p.1.IsRtc i → stunTime p.1 i = (p.2.lastUdp i).getD 0
  fresh : ∀ i, p.1.nextResource ≤ i → p.2.lastUdp i = none
  udp : ∀ i t, p.2.lastUdp i = some t → t ≤ p.2.now ∧ ∃ t', p.2.lastStun i = some t' ∧ t ≤ t'

theorem timed_startup (config : ServerConfig) : Timed (startup config, {}) := by
  refine ⟨linked_startup config, Int.le_refl _, ?_, ?_, fun _ _ => rfl, ?_⟩
  · intro i hi
    exact absurd hi (Nat.not_lt_zero i)
  · rintro i ⟨hi, _⟩
    exact absurd hi (Nat.not_lt_zero i)
  · intro i t ht
    cases ht

theorem stunTime_le_aliveSince {p : GbMediaService × StunHistory} (h : Timed p)
    {i : ResourceId} (hi : p.1.IsRtc i) : stunTime p.1 i ≤ aliveSince p i := by
  rw [h.stunTime i hi, aliveSince]
  have hcreated := h.created i hi.1
  cases hudp : p.2.lastUdp i with
  | none =>
      rw [Option.getD_none]
      split
      · exact hcreated
      · exact Int.le_trans hcreated (Int.le_max_left _ _)
  | some t =>
      obtain ⟨_, t', hstun, hle⟩ := h.udp i t hudp
      rw [hstun, Option.getD_some]
      exact Int.le_trans hle (Int.le_max_right _ _)

section Ticks

variable {p : GbMediaService × StunHistory} (h : Timed p)

include h

theorem tickKept_iff_heard (sid : SessionId) (nowMs : Int) :
    TickKept p (.tick sid nowMs) ↔ Heard p (.tick sid nowMs) := by
  rw [TickKept, Heard]
  refine forall_congr' fun i => forall_congr' fun hi => ?_
  have htime := stunTime_le_aliveSince h hi.2
  rw [h.stunTime i hi.2] at htime
  have hgone : ¬ ((p.1.checkTimeOut sid nowMs).sessionHeap sid).Has i ↔
      (p.2.lastUdp i).getD 0 + p.1.config.timeoutMs < nowMs := by
    rw [has_checkTimeOut_iff h.linked, and_iff_right hi.1, not_not,
      mem_timedOut_iff h.linked hi.2 hi.1, checkStunTimeOut, decide_eq_true_eq]
    have hstun := h.stunTime i hi.2
    rw [stunTime] at hstun
    omega
  rw [hgone]
  omega

end Ticks

section Steps

variable {p : GbMediaService × StunHistory} (h : Timed p)

include h

theorem timed_extends {time : Option Int} (hclock : ∀ t, time = some t → p.2.now ≤ t)
    {t : GbMediaService} (ht : t.Linked) (hextends : Extends time p.1 t) :
    Timed (t, { p.2 with now := time.getD p.2.now }) := by
  have hnow : p.2.now ≤ time.getD p.2.now := by
    cases time with
    | none => exact Int.le_refl _
    | some t => exact hclock t rfl
  refine ⟨ht, Int.le_trans h.now hnow, ?_, ?_, ?_, ?_⟩
  · intro i hi
    rcases Nat.lt_or_ge i p.1.nextResource with hold | hnew
    · rw [hextends.resource i hold]
      exact h.created i hold
    · have hcreated := hextends.created i hnew hi
      exact Int.le_trans h.now (hclock _ hcreated.symm)
  · intro i hi
    rcases Nat.lt_or_ge i p.1.nextResource with hold | hnew
    · have hrtc := (isRtc_iff_of_lt hextends hold).mp hi
      rw [hextends.kept i hrtc, h.stunTime i hrtc]
    · rw [hextends.fresh i hnew hi, h.fresh i hnew]
      rfl
  · intro i hi
    exact h.fresh i (Nat.le_trans hextends.next hi)
  · intro i t hudp
    obtain ⟨hle, hstun⟩ := h.udp i t hudp
    exact ⟨Int.le_trans hle hnow, hstun⟩

theorem stunTime_onStun {Stun : Type*} (api : MediaApi Stun) {k : Nat} {transport : Transport}
    {data : List UInt8} {addr : SocketAddress} {nowMs : Int} {j : ResourceId}
    (hnamed : (p.1.rtcServices k).namedInterface api.toStunApi data = some j) (i : ResourceId) :
    stunTime (p.1.onStun api k transport data addr nowMs) i =
      if i = j ∧ transport = .udp then nowMs else stunTime p.1 i := by
  obtain ⟨stun, _, hname⟩ := Option.bind_eq_some_iff.mp hnamed
  have hindex : (p.1.sessionHeap (p.1.resources j).session).rtcService = k :=
    ((h.linked.serves k).name hname).2.1
  simp only [stunTime, rtcInterface, serviceOf, GbMediaService.onStun,
    RtcService.onStun_fst_of_some api.toStunApi transport addr nowMs hnamed,
    Function.update_apply]
  rcases eq_or_ne i j with rfl | hne
  · rw [if_pos hindex]
    cases transport with
    | udp => simp [RtcService.bound]
    | tcp => simp [RtcService.bound, hindex]
  · have hother : ¬ (i = j ∧ transport = .udp) := fun hboth => hne hboth.1
    rw [if_neg hother]
    split
    · rename_i hk
      simp only [if_neg hne, hk]
    · rfl

theorem timed_stun_unnamed {Stun : Type*} (api : MediaApi Stun) {k : Nat} {transport : Transport}
    {data : List UInt8} {addr : SocketAddress} {nowMs : Int} (hclock : p.2.now ≤ nowMs)
    (hnamed : (p.1.rtcServices k).namedInterface api.toStunApi data = none) :
    Timed (p.1.onStun api k transport data addr nowMs,
      noteStun api p.1 p.2 (.stun k transport data addr nowMs)) := by
  have hsame : p.1.onStun api k transport data addr nowMs = p.1 := by
    rw [GbMediaService.onStun,
      RtcService.onStun_fst_of_none api.toStunApi transport addr nowMs hnamed,
      Function.update_eq_self]
  have hnote : noteStun api p.1 p.2 (.stun k transport data addr nowMs) =
      { p.2 with now := (some nowMs).getD p.2.now } := by
    simp only [noteStun, hnamed]
    rfl
  rw [hsame, hnote]
  refine timed_extends h ?_ h.linked (Extends.refl p.1)
  intro t ht
  obtain rfl := Option.some.inj ht
  exact hclock

theorem udp_stun {nowMs : Int} (hclock : p.2.now ≤ nowMs) {transport : Transport}
    {i j : ResourceId} {t : Int}
    (ht : ({ p.2 with now := nowMs }.stun j transport nowMs).lastUdp i = some t) :
    t ≤ nowMs ∧
      ∃ t', ({ p.2 with now := nowMs }.stun j transport nowMs).lastStun i = some t' ∧
        t ≤ t' := by
  rw [lastUdp_stun] at ht
  have hstun : ({ p.2 with now := nowMs }.stun j transport nowMs).lastStun i =
      if i = j then some nowMs else p.2.lastStun i :=
    Function.update_apply _ _ _ _
  rw [hstun]
  split at ht
  · rename_i hboth
    obtain rfl := Option.some.inj ht
    rw [if_pos hboth.1]
    exact ⟨Int.le_refl _, _, rfl, Int.le_refl _⟩
  · obtain ⟨hle, t', ht', hle'⟩ := h.udp i t ht
    refine ⟨Int.le_trans hle hclock, ?_⟩
    split
    · exact ⟨nowMs, rfl, Int.le_trans hle hclock⟩
    · exact ⟨t', ht', hle'⟩

theorem timed_stun {Stun : Type*} (api : MediaApi Stun) {k : Nat} {transport : Transport}
    {data : List UInt8} {addr : SocketAddress} {nowMs : Int} (hclock : p.2.now ≤ nowMs) :
    Timed (p.1.onStun api k transport data addr nowMs,
      noteStun api p.1 p.2 (.stun k transport data addr nowMs)) := by
  have hlinked := h.linked.onStun api k transport data addr nowMs
  cases hnamed : (p.1.rtcServices k).namedInterface api.toStunApi data with
  | none => exact timed_stun_unnamed h api hclock hnamed
  | some j =>
      have hnote : noteStun api p.1 p.2 (.stun k transport data addr nowMs) =
          { p.2 with now := nowMs }.stun j transport nowMs := by
        simp only [noteStun, hnamed]
        rfl
      have hj : p.1.IsRtc j := by
        obtain ⟨stun, _, hname⟩ := Option.bind_eq_some_iff.mp hnamed
        exact ((h.linked.serves k).name hname).1
      rw [hnote]
      refine ⟨hlinked, Int.le_trans h.now hclock, h.created, ?_, ?_, ?_⟩
      · intro i hi
        rw [stunTime_onStun h api hnamed, h.stunTime i hi, lastUdp_stun]
        split <;> rfl
      · intro i hi
        have hne : i ≠ j := by
          rintro rfl
          exact absurd hj.1 (Nat.not_lt.mpr hi)
        rw [lastUdp_stun, if_neg (fun hboth => hne hboth.1)]
        exact h.fresh i hi
      · intro i t ht
        exact udp_stun h hclock ht

theorem timed_step {Stun : Type*} (api : MediaApi Stun) {input : Input}
    (hclock : ClockRuns p input) : OnOk Timed (observed api p input) := by
  rw [observed, onOk_observeGuarded]
  by_cases hstun : ∃ k transport data addr nowMs, input = .stun k transport data addr nowMs
  · obtain ⟨k, transport, data, addr, nowMs, rfl⟩ := hstun
    exact onOk_ok.mpr (timed_stun h api (hclock nowMs rfl))
  · intro t ht
    have hinput : ∀ k transport data addr nowMs, input ≠ .stun k transport data addr nowMs :=
      fun k transport data addr nowMs heq => hstun ⟨k, transport, data, addr, nowMs, heq⟩
    have hnote : noteStun api p.1 p.2 input =
        { p.2 with now := (inputTime input).getD p.2.now } := by
      cases input with
      | stun k transport data addr nowMs =>
          exact absurd rfl (hinput k transport data addr nowMs)
      | _ => rfl
    rw [hnote]
    exact timed_extends h hclock (h.linked.step api input t ht)
      (extends_step h.linked api hinput t ht)

end Steps

/-- Under a clock that does not run backwards, every tick takes down the endpoints it
should exactly when at every tick each RTC endpoint of the session has been heard over UDP
in time, or has rightly run out of it. -/
theorem ticks_kept_iff {Stun : Type*} (api : MediaApi Stun) (config : ServerConfig)
    (inputs : List Input) (hclock : (0 :: inputs.filterMap inputTime).Pairwise (· ≤ ·)) :
    Admitted (guarded (observed api)) (fun p input => OnOk (fun p => TickKept p input) p)
        (.ok (startup config, {})) inputs ↔
      Admitted (guarded (observed api)) (fun p input => OnOk (fun p => Heard p input) p)
        (.ok (startup config, {})) inputs := by
  have hclock' := admitted_clockRuns api (p := .ok (startup config, {})) (onOk_ok.mpr hclock)
  refine admitted_congr (P := OnOk Timed) (onOk_ok.mpr (timed_startup config)) ?_ ?_ hclock'
  · intro p input hp hinput
    cases p with
    | error fault => exact onOk_error
    | ok p => exact timed_step (onOk_ok.mp hp) api (hinput p rfl)
  · intro p input hp _
    cases p with
    | error fault => simp
    | ok p =>
        rw [onOk_ok, onOk_ok]
        cases input with
        | tick sid nowMs => exact tickKept_iff_heard (onOk_ok.mp hp) sid nowMs
        | _ => exact Iff.rfl

theorem ticks_kept_iff_published :
    Admitted (guarded (observed sampleApi)) (fun p input => OnOk (fun p => TickKept p input) p)
        (.ok (startup sampleConfig, {})) [samplePush "aa" 0, .tick 0 5000] ↔
      Admitted (guarded (observed sampleApi)) (fun p input => OnOk (fun p => Heard p input) p)
        (.ok (startup sampleConfig, {})) [samplePush "aa" 0, .tick 0 5000] :=
  ticks_kept_iff sampleApi sampleConfig _ (by decide)

/-- A stream published while the server has been up for some time. -/
def publishedLate : GbMediaService :=
  ((startup sampleConfig).handlerRtcProducer sampleApi (.offer sampleUrl sampleSdp)
    ⟨fun _ => "aa", "secret"⟩ 100000).1

/-- A producer without a STUN packet yet is taken down by the next tick. -/
theorem not_ticks_kept :
    ¬ ∀ (config : ServerConfig) (inputs : List Input),
      (0 :: inputs.filterMap inputTime).Pairwise (· ≤ ·) →
        Admitted (guarded (observed sampleApi))
          (fun p input => OnOk (fun p => TickKept p input) p) (.ok (startup config, {}))
          inputs := by
  intro hclaim
  have hkept : TickKept (publishedLate, { now := 100000 }) (.tick 0 101000) :=
    hclaim sampleConfig [samplePush "aa" 100000, .tick 0 101000] (by decide)
      [samplePush "aa" 100000] (.tick 0 101000) [] rfl _ rfl
  have hproducer : RtcOf publishedLate 0 0 :=
    ⟨Or.inl (by decide), by decide⟩
  have hgone : ¬ ((publishedLate.checkTimeOut 0 101000).sessionHeap 0).Has 0 := by
    rintro (hp | hc)
    · revert hp
      decide
    · revert hc
      decide
  have hpassed := (hkept 0 hproducer).1 hgone
  revert hpassed
  decide

end GBServer.StunTimeouts
