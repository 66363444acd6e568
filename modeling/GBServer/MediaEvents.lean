import GBServer.MediaInvariants

namespace GBServer

open Foundation.CStrings
open Foundation.Runs

namespace GbMediaService

section TimeOut

variable (s : GbMediaService) (sid : SessionId)

def timedOut (nowMs : Int) : List ResourceId :=
  (s.producerTimedOut sid nowMs).toList ++ s.consumersTimedOut sid nowMs

/-- Unregister endpoints, and detach them from the session. -/
def withdraw (producer : Option ResourceId) (dropped : List ResourceId) : GbMediaService :=
  (s.withRtcService sid fun service => service.unregisterAll dropped).withSession sid
    fun session =>
      { session with
        producer := producer
        consumers := session.consumers.filter (· ∉ dropped) }

theorem dropConsumer_eq (c : ResourceId) :
    dropConsumer sid s c = s.withdraw sid (s.sessionHeap sid).producer [c] := by
  simp [dropConsumer, withdraw, removeConsumer, unregisterRtcInterface, withSession,
    withRtcService, RtcService.unregisterAll]

theorem withdraw_nil : s.withdraw sid (s.sessionHeap sid).producer [] = s := by
  simp [withdraw, withSession, withRtcService, RtcService.unregisterAll]

theorem withdraw_withdraw (producer producer' : Option ResourceId)
    (dropped dropped' : List ResourceId) :
    (s.withdraw sid producer dropped).withdraw sid producer' dropped' =
      s.withdraw sid producer' (dropped ++ dropped') := by
  simp [withdraw, withSession, withRtcService, RtcService.unregisterAll,
    Function.update_idem, List.filter_filter, Bool.and_comm]

@[simp] theorem withdraw_producer (producer : Option ResourceId) (dropped : List ResourceId) :
    ((s.withdraw sid producer dropped).sessionHeap sid).producer = producer := by
  simp [withdraw, withSession, withRtcService]

theorem foldl_dropConsumer (dropped : List ResourceId) :
    dropped.foldl (dropConsumer sid) s =
      s.withdraw sid (s.sessionHeap sid).producer dropped := by
  induction dropped generalizing s with
  | nil => exact (s.withdraw_nil sid).symm
  | cons c rest ih =>
      rw [List.foldl_cons, ih, dropConsumer_eq, withdraw_producer, withdraw_withdraw]
      rfl

theorem rtcInterface_withdraw (producer : Option ResourceId) (dropped : List ResourceId)
    (i : ResourceId) : (s.withdraw sid producer dropped).rtcInterface i = s.rtcInterface i := by
  have hservice : ∀ sid', ((s.withdraw sid producer dropped).sessionHeap sid').rtcService =
      (s.sessionHeap sid').rtcService := by
    intro sid'
    change (Function.update s.sessionHeap sid _ sid').rtcService = _
    rw [Function.update_apply]
    split
    · rename_i heq
      exact heq ▸ rfl
    · rfl
  have hinterfaces : ∀ k, ((s.withdraw sid producer dropped).rtcServices k).interfaces =
      (s.rtcServices k).interfaces := by
    intro k
    change (Function.update s.rtcServices _ _ k).interfaces = _
    rw [Function.update_apply]
    split
    · rename_i heq
      rw [RtcService.interfaces_unregisterAll, heq]
    · rfl
  rw [rtcInterface, rtcInterface, serviceOf, serviceOf, hinterfaces, hservice]
  rfl

theorem mem_producerTimedOut {s : GbMediaService} {sid : SessionId} {nowMs : Int}
    {p : ResourceId} :
    s.producerTimedOut sid nowMs = some p ↔
      (s.sessionHeap sid).producer = some p ∧ (s.resources p).type = .producerRtc ∧
        s.checkStunTimeOut p nowMs = true := by
  rw [producerTimedOut, Option.filter_eq_some_iff, Bool.and_eq_true, decide_eq_true_eq]

theorem mem_consumersTimedOut {s : GbMediaService} {sid : SessionId} {nowMs : Int}
    {c : ResourceId} :
    c ∈ s.consumersTimedOut sid nowMs ↔
      c ∈ (s.sessionHeap sid).consumers ∧ (s.resources c).type = .consumerRtc ∧
        s.checkStunTimeOut c nowMs = true := by
  rw [consumersTimedOut, List.mem_filter, Bool.and_eq_true, decide_eq_true_eq]

variable {s sid}

theorem Linked.notMem_consumers (h : s.Linked) {i : ResourceId}
    (hproducer : (s.resources i).type.isProducer = true) (sid : SessionId) :
    i ∉ (s.sessionHeap sid).consumers := by
  intro hi
  have htype := (h.consumer hi).2
  revert hproducer htype
  cases (s.resources i).type <;> decide

theorem Linked.filter_consumers (h : s.Linked) {p : ResourceId}
    (hp : (s.resources p).type.isProducer = true) (sid : SessionId) :
    (s.sessionHeap sid).consumers.filter (· ∉ [p]) = (s.sessionHeap sid).consumers := by
  rw [List.filter_eq_self]
  intro c hc
  have hne : c ≠ p := by
    rintro rfl
    exact h.notMem_consumers hp sid hc
  simp [hne]

theorem dropProducer_eq (h : s.Linked) {p : ResourceId}
    (hp : (s.resources p).type.isProducer = true) :
    s.dropProducer sid p = s.withdraw sid none [p] := by
  simp only [dropProducer, withdraw, setProducer, unregisterRtcInterface, withSession,
    withRtcService, h.filter_consumers hp]
  rfl

theorem checkTimeOut_eq (h : s.Linked) (nowMs : Int) :
    s.checkTimeOut sid nowMs =
      s.withdraw sid
        (if (s.producerTimedOut sid nowMs).isSome then none else (s.sessionHeap sid).producer)
        (s.timedOut sid nowMs) := by
  cases hp : s.producerTimedOut sid nowMs with
  | none =>
      simp only [checkTimeOut, hp, timedOut, Option.toList_none, List.nil_append,
        foldl_dropConsumer]
      rfl
  | some p =>
      obtain ⟨_, htype, _⟩ := mem_producerTimedOut.mp hp
      have hp' : (s.resources p).type.isProducer = true := by
        rw [htype]
        rfl
      have hconsumers : (s.withdraw sid none [p]).consumersTimedOut sid nowMs =
          s.consumersTimedOut sid nowMs := by
        have hheap : ((s.withdraw sid none [p]).sessionHeap sid).consumers =
            (s.sessionHeap sid).consumers := by
          change (Function.update s.sessionHeap sid _ sid).consumers = _
          rw [Function.update_self]
          exact h.filter_consumers hp' sid
        simp only [consumersTimedOut, checkStunTimeOut, hheap, rtcInterface_withdraw]
        rfl
      simp only [checkTimeOut, hp, timedOut, Option.toList_some, dropProducer_eq h hp',
        hconsumers, foldl_dropConsumer, withdraw_producer, withdraw_withdraw]
      rfl

theorem withdraw_heap (producer : Option ResourceId) (dropped : List ResourceId) :
    (s.withdraw sid producer dropped).sessionHeap sid =
      { s.sessionHeap sid with
        producer := producer
        consumers := (s.sessionHeap sid).consumers.filter (· ∉ dropped) } := by
  simp [withdraw, withSession, withRtcService]

theorem has_checkTimeOut_iff (h : s.Linked) {nowMs : Int} {i : ResourceId} :
    ((s.checkTimeOut sid nowMs).sessionHeap sid).Has i ↔
      (s.sessionHeap sid).Has i ∧ i ∉ s.timedOut sid nowMs := by
  have hproducer : (if (s.producerTimedOut sid nowMs).isSome then none
      else (s.sessionHeap sid).producer) = some i ↔
        (s.sessionHeap sid).producer = some i ∧ i ∉ s.timedOut sid nowMs := by
    rw [timedOut, List.mem_append, Option.mem_toList]
    constructor
    · intro hkept
      split at hkept
      · cases hkept
      · rename_i hnone
        refine ⟨hkept, not_or.mpr ⟨?_, ?_⟩⟩
        · intro hsome
          exact hnone (Option.isSome_iff_exists.mpr ⟨i, hsome⟩)
        · intro hc
          exact h.notMem_consumers (h.producer hkept).2 sid (mem_consumersTimedOut.mp hc).1
    · rintro ⟨hp, hstays⟩
      rw [if_neg, hp]
      intro hsome
      obtain ⟨q, hq⟩ := Option.isSome_iff_exists.mp hsome
      obtain rfl : i = q := Option.some.inj (hp.symm.trans (mem_producerTimedOut.mp hq).1)
      exact hstays (Or.inl hq)
  rw [checkTimeOut_eq h, withdraw_heap, Session.Has, Session.Has, hproducer, List.mem_filter,
    or_and_right]
  simp

theorem mem_timedOut_iff (h : s.Linked) {nowMs : Int} {i : ResourceId} (hrtc : s.IsRtc i)
    (hi : (s.sessionHeap sid).Has i) :
    i ∈ s.timedOut sid nowMs ↔ s.checkStunTimeOut i nowMs = true := by
  rw [timedOut, List.mem_append, Option.mem_toList, mem_producerTimedOut, mem_consumersTimedOut]
  rcases hi with hp | hc
  · have htype : (s.resources i).type = .producerRtc := by
      have hproducer := (h.producer hp).2
      rcases hrtc.2 with htype | htype
      · exact htype
      · rw [htype] at hproducer
        cases hproducer
    simp [hp, htype]
  · have htype : (s.resources i).type = .consumerRtc := by
      have hconsumer := (h.consumer hc).2
      rcases hrtc.2 with htype | htype
      · rw [htype] at hconsumer
        cases hconsumer
      · exact htype
    simp [hc, htype]

end TimeOut

section Rtp

variable {s : GbMediaService} {k : Nat} {addr : SocketAddress} {i : ResourceId}
  (data : List UInt8) (media : List Media)

theorem onRtp_of_none
    (hroute : (s.rtcServices k).rtcInterfaces[RtcService.addressKey addr]? = none) :
    s.onRtp k addr data media = .ok s := by
  simp only [GbMediaService.onRtp, RtcService.onRtp, hroute, Option.map_none]

variable (hroute : (s.rtcServices k).rtcInterfaces[RtcService.addressKey addr]? = some i)

include hroute

theorem onRtp_of_consumer (hkind : ((s.rtcServices k).interfaces i).kind = .consumer) :
    s.onRtp k addr data media = .ok s := by
  simp only [GbMediaService.onRtp, RtcService.onRtp, hroute, Option.map_some,
    RtcInterface.onSrtpRtp, hkind]
  change (Except.ok ((s.rtcServices k).interfaces i)).bind _ = _
  simp only [Except.bind, hkind]
  rfl

theorem onRtp_of_producer (hkind : ((s.rtcServices k).interfaces i).kind = .producer) :
    s.onRtp k addr data media =
      if ((s.rtcServices k).interfaces i).srtpRecvSession.isSome then
        .ok (s.addFrames i media)
      else .error .nullDereference := by
  simp only [GbMediaService.onRtp, RtcService.onRtp, hroute, Option.map_some,
    RtcInterface.onSrtpRtp, hkind, RtcInterface.useRecvSession]
  cases ((s.rtcServices k).interfaces i).srtpRecvSession with
  | none => rfl
  | some session =>
      change (Except.ok ((s.rtcServices k).interfaces i)).bind _ = _
      simp only [Except.bind, hkind]
      rfl

omit hroute

theorem onOk_onRtp {P : GbMediaService → Prop} (hs : P s)
    (hframes : ∀ i, (s.rtcServices k).rtcInterfaces[RtcService.addressKey addr]? = some i →
      P (s.addFrames i media)) : OnOk P (s.onRtp k addr data media) := by
  cases hroute : (s.rtcServices k).rtcInterfaces[RtcService.addressKey addr]? with
  | none =>
      rw [onRtp_of_none data media hroute]
      exact onOk_ok.mpr hs
  | some i =>
      cases hkind : ((s.rtcServices k).interfaces i).kind with
      | consumer =>
          rw [onRtp_of_consumer data media hroute hkind]
          exact onOk_ok.mpr hs
      | producer =>
          rw [onRtp_of_producer data media hroute hkind]
          split
          · exact onOk_ok.mpr (hframes i hroute)
          · exact onOk_error

end Rtp

section Rules

variable {s : GbMediaService} {P : GbMediaService → Prop} (hs : P s)

include hs

theorem onDestroy_rule (i : ResourceId)
    (hremoved : P (s.removeConsumer (s.resources i).session i)) : P (s.onDestroy i) := by
  rw [onDestroy]
  split
  · exact hremoved
  · exact hremoved
  · exact hremoved
  · exact hs

/-- A connection that is lost is that of an FLV viewer, or nothing happens. -/
theorem disconnect_rule (i : ResourceId)
    (hremoved : P (s.removeConsumer (s.resources i).session i)) :
    P (if (s.resources i).type = .consumerFlv then s.onDestroy i else s) := by
  split
  · exact onDestroy_rule hs i hremoved
  · exact hs

theorem onTcp_rule (streamId : CString) (images : List (List UInt8))
    (hframes : ∀ i media, P (s.addFrames i media)) : P (s.onTcp streamId images) := by
  rw [onTcp]
  split
  · exact hs
  · split
    · exact hframes _ _
    · exact hs

theorem onDtls_rule (i : ResourceId) (callback : RtcInterface.DtlsCallback)
    (hstored : s.IsRtc i →
      P (s.withRtcService (s.resources i).session fun service =>
        service.setInterface i ((service.interfaces i).onDtls callback)) ∧
      P ((s.withRtcService (s.resources i).session fun service =>
        service.setInterface i ((service.interfaces i).onDtls callback)).post
          [.dtlsEnded i])) : P (s.onDtls i callback) := by
  rw [onDtls]
  split
  · rename_i hrtc
    dsimp only
    split
    · exact (hstored hrtc).2
    · exact (hstored hrtc).2
    · exact (hstored hrtc).1
  · exact hs

theorem runTask_rule
    (hrest : ∀ task rest, s.tasks = task :: rest → P { s with tasks := rest })
    (hended : ∀ i rest, s.tasks = .dtlsEnded i :: rest →
      P (({ s with tasks := rest }.registerRtcInterface (s.resources i).session i).setProducer
        (s.resources i).session none) ∧
      P (dropConsumer (s.resources i).session { s with tasks := rest } i)) : P s.runTask := by
  rw [runTask]
  split
  · exact hs
  · rename_i htasks
    exact hrest _ _ htasks
  · rename_i htasks
    rw [onDtlsEnded]
    dsimp only
    split
    · exact (hended _ _ htasks).1
    · exact (hended _ _ htasks).2
    · exact hrest _ _ htasks

end Rules

end GbMediaService

end GBServer
