import GBServer.MediaEvents
import GBServer.MediaRequests

namespace GBServer

open Foundation.CStrings
open Foundation.Runs

namespace GbMediaService

section Steps

variable {s : GbMediaService} (h : s.Linked)

include h

theorem Linked.checkTimeOut (sid : SessionId) (nowMs : Int) :
    (s.checkTimeOut sid nowMs).Linked := by
  have hfold : ∀ (dropped : List ResourceId) {s : GbMediaService}, s.Linked →
      (dropped.foldl (GbMediaService.dropConsumer sid) s).Linked := by
    intro dropped
    induction dropped with
    | nil => exact fun h => h
    | cons c rest ih => exact fun h => ih (h.dropConsumer c)
  rw [GbMediaService.checkTimeOut]
  split
  · exact hfold _ (h.dropProducer _)
  · exact hfold _ h

theorem Linked.onDtls (i : ResourceId) (callback : RtcInterface.DtlsCallback) :
    (s.onDtls i callback).Linked := by
  apply onDtls_rule h
  intro hrtc
  have hstored : (s.withRtcService (s.resources i).session fun service =>
      service.setInterface i ((service.interfaces i).onDtls callback)).Linked := by
    apply h.withRtcService
    apply (h.serves _).setInterface
    intro _
    exact congrArg RtcParameters.localUFrag (RtcInterface.onDtls_toRtcParameters _ _)
  refine ⟨hstored, hstored.post ?_⟩
  intro j hj
  simp only [List.mem_singleton, Task.dtlsEnded.injEq] at hj
  exact hj ▸ hrtc

theorem Linked.addFrames (i : ResourceId) (media : List Media) :
    (s.addFrames i media).Linked := by
  apply h.post
  intro j hj
  simp at hj

theorem Linked.runTask : s.runTask.Linked := by
  have hrest : ∀ task rest, s.tasks = task :: rest → { s with tasks := rest }.Linked := by
    intro task rest htasks
    apply h.withTasks
    intro j hj
    exact h.posted (htasks ▸ List.mem_cons_of_mem _ hj)
  apply runTask_rule h hrest
  intro i rest htasks
  have hrest := hrest _ rest htasks
  have hrtc : s.IsRtc i := h.posted (htasks ▸ List.mem_cons_self)
  exact ⟨(hrest.registerRtcInterface hrtc rfl).setProducer nofun, hrest.dropConsumer i⟩

theorem Linked.handlerFlvConsumer (path : CString) (secrets : IceSecrets) (nowMs : Int) :
    (s.handlerFlvConsumer path secrets nowMs).1.Linked := by
  apply handlerFlvConsumer_rule h h
  intro s' sessionName sid hcreate
  obtain ⟨h', hlisted⟩ := h.createSession hcreate
  apply (h'.newResource (h'.session hlisted).1 .consumerFlv nowMs).addConsumer
  · exact member_newResource h' hlisted nowMs _
  · rw [resources_newResource]
    rfl

variable {Stun : Type*} (api : MediaApi Stun)

theorem Linked.handlerRtcProducer (body : OfferBody) (secrets : IceSecrets) (nowMs : Int) :
    (s.handlerRtcProducer api body secrets nowMs).1.Linked := by
  apply handlerRtcProducer_rule api h h
  intro s' sessionName sid hcreate
  obtain ⟨h', hlisted⟩ := h.createSession hcreate
  have hattached := h'.attachRtcProducer hlisted secrets nowMs
  have hmember := member_newRtcResource h' hlisted secrets nowMs .producerRtc .producer
  exact ⟨hattached, hattached.registerRtcInterface
    (isRtc_attachRtcProducer s' sid secrets nowMs) hmember.session⟩

theorem Linked.handlerRtcConsumer (body : OfferBody) (secrets : IceSecrets) (nowMs : Int) :
    (s.handlerRtcConsumer api body secrets nowMs).1.Linked := by
  apply handlerRtcConsumer_rule api h h
  intro s' sessionName sid hcreate
  obtain ⟨h', hlisted⟩ := h.createSession hcreate
  have hattached := h'.attachRtcConsumer hlisted secrets nowMs
  have hmember := member_newRtcResource h' hlisted secrets nowMs .consumerRtc .consumer
  exact ⟨hattached, hattached.registerRtcInterface
    (isRtc_attachRtcConsumer s' sid secrets nowMs) hmember.session⟩

theorem Linked.handlerOpenRtpServer (body : RtpServerBody) (started : Bool)
    (secrets : IceSecrets) (nowMs : Int) :
    (s.handlerOpenRtpServer body started secrets nowMs).1.Linked := by
  apply handlerOpenRtpServer_rule h h
  intro s' sessionName sid hcreate
  obtain ⟨h', hlisted⟩ := h.createSession hcreate
  exact ⟨h', h'.openedRtpServer started nowMs hlisted⟩

theorem Linked.onStun (k : Nat) (transport : Transport) (data : List UInt8)
    (addr : SocketAddress) (nowMs : Int) :
    (s.onStun api k transport data addr nowMs).Linked :=
  h.updateService ((h.serves k).onStun api.toStunApi transport data addr nowMs)

theorem Linked.step (input : Input) : OnOk Linked (s.step api input) := by
  cases input with
  | push body secrets nowMs => exact onOk_ok.mpr (h.handlerRtcProducer api body secrets nowMs)
  | play body secrets nowMs => exact onOk_ok.mpr (h.handlerRtcConsumer api body secrets nowMs)
  | flv path secrets nowMs => exact onOk_ok.mpr (h.handlerFlvConsumer path secrets nowMs)
  | disconnect i => exact onOk_ok.mpr (disconnect_rule h i (h.removeConsumer i))
  | openRtpServer body started secrets nowMs =>
      exact onOk_ok.mpr (h.handlerOpenRtpServer body started secrets nowMs)
  | closeRtpServer body => exact onOk_map.mpr (onOk_handlerCloseRtpServer h body h.closed)
  | stun k transport data addr nowMs =>
      exact onOk_ok.mpr (h.onStun api k transport data addr nowMs)
  | dtls i callback => exact onOk_ok.mpr (h.onDtls i callback)
  | rtp k addr data media => exact onOk_onRtp data media h fun i _ => h.addFrames i media
  | tcp streamId images => exact onOk_ok.mpr (onTcp_rule h streamId images h.addFrames)
  | tick sid nowMs => exact onOk_ok.mpr (h.checkTimeOut sid nowMs)
  | worker => exact onOk_ok.mpr h.runTask

end Steps

theorem linked_startup (config : ServerConfig) : (startup config).Linked := by
  constructor
  · simp [startup]
  · simp [startup]
  · simp [startup]
  · simp [startup]
  · intro k
    constructor
    · simp [startup, RtcService.startup]
    · simp [startup, RtcService.startup]
  · simp [startup]

end GbMediaService

end GBServer
