import GBServer.MediaService
import GBServer.RegistryTables

namespace GBServer

open Std (ExtTreeMap)
open Foundation.CStrings
open GBServer.SessionName

def ShareResourceType.isProducer : ShareResourceType → Bool
  | .producerGB28181 | .producerRtc | .producerRtmp | .producerRtsp => true
  | _ => false

def ShareResourceType.isConsumer : ShareResourceType → Bool
  | .consumerRtc | .consumerFlv | .consumerRtmp | .consumerRtsp => true
  | _ => false

/-- The endpoint is the producer or one of the consumers. -/
def Session.Has (session : Session) (i : ResourceId) : Prop :=
  session.producer = some i ∨ i ∈ session.consumers

namespace GbMediaService

def Held (s : GbMediaService) (i : ResourceId) : Prop := ∃ k, (s.rtcServices k).HeldBy i

/-- The endpoint belongs to a session of the session table. -/
def Attached (s : GbMediaService) (i : ResourceId) : Prop :=
  ∃ (sessionName : CString) (sid : SessionId),
    s.sessions[sessionName]? = some sid ∧ (s.sessionHeap sid).Has i

/-- The service that the session of the endpoint uses. -/
def serviceIndex (s : GbMediaService) (i : ResourceId) : Nat :=
  (s.sessionHeap (s.resources i).session).rtcService

/-- The endpoint was created by this session, which is still in the session table. -/
structure Member (s : GbMediaService) (sid : SessionId) (i : ResourceId) : Prop where
  created : i < s.nextResource
  session : (s.resources i).session = sid
  listed : s.sessions[(s.sessionHeap sid).sessionName]? = some sid

/-- What the tables of the `k`-th service may refer to. -/
structure Serves (s : GbMediaService) (k : Nat) (service : RtcService) : Prop where
  name : ∀ {ufrag : String} {i : ResourceId}, service.nameRtcInterface[ufrag]? = some i →
    s.IsRtc i ∧ s.serviceIndex i = k ∧ (service.interfaces i).localUFrag = ufrag
  route : ∀ {key : String} {i : ResourceId}, service.rtcInterfaces[key]? = some i →
    s.IsRtc i ∧ s.serviceIndex i = k

structure Linked (s : GbMediaService) : Prop where
  session : ∀ {sessionName : CString} {sid}, s.sessions[sessionName]? = some sid →
    sid < s.rtcServiceIndex ∧ (s.sessionHeap sid).sessionName = sessionName ∧
      2 ≤ (split sessionName).length
  resource : ∀ {i}, i < s.nextResource → (s.resources i).session < s.rtcServiceIndex
  producer : ∀ {sid i}, (s.sessionHeap sid).producer = some i →
    s.Member sid i ∧ (s.resources i).type.isProducer = true
  consumer : ∀ {sid i}, i ∈ (s.sessionHeap sid).consumers →
    s.Member sid i ∧ (s.resources i).type.isConsumer = true
  serves : ∀ k, s.Serves k (s.rtcServices k)
  posted : ∀ {i}, .dtlsEnded i ∈ s.tasks → s.IsRtc i

theorem Serves.mono {s s' : GbMediaService} {k : Nat} {service : RtcService}
    (h : s.Serves k service)
    (hkept : ∀ {i}, s.IsRtc i → s'.IsRtc i ∧ s'.serviceIndex i = s.serviceIndex i) :
    s'.Serves k service := by
  constructor
  · intro ufrag i hi
    obtain ⟨hrtc, hindex, hufrag⟩ := h.name hi
    obtain ⟨hrtc', hindex'⟩ := hkept hrtc
    exact ⟨hrtc', hindex'.trans hindex, hufrag⟩
  · intro key i hi
    obtain ⟨hrtc, hindex⟩ := h.route hi
    obtain ⟨hrtc', hindex'⟩ := hkept hrtc
    exact ⟨hrtc', hindex'.trans hindex⟩

section Services

variable {s : GbMediaService} {k : Nat} {service : RtcService}

theorem Serves.register (h : s.Serves k service) {i : ResourceId} (hrtc : s.IsRtc i)
    (hindex : s.serviceIndex i = k) : s.Serves k (service.registerRtcInterface i) := by
  constructor
  · intro ufrag j hj
    rw [RtcService.getElem?_register_name] at hj
    split at hj
    · rename_i hnew
      obtain rfl := Option.some.inj hj
      exact ⟨hrtc, hindex, hnew.1⟩
    · exact h.name hj
  · exact h.route

theorem Serves.unregister (h : s.Serves k service) (i : ResourceId) :
    s.Serves k (service.unregisterRtcInterface i) := by
  constructor
  · intro ufrag j hj
    rw [Unregistration.getElem?_unregister_name] at hj
    split at hj
    · cases hj
    · exact h.name hj
  · intro key j hj
    rw [RtcService.getElem?_unregister_route] at hj
    split at hj
    · cases hj
    · exact h.route hj

theorem Serves.setInterface (h : s.Serves k service) {j : ResourceId} {x : RtcInterface}
    (hx : s.IsRtc j → x.localUFrag = (service.interfaces j).localUFrag) :
    s.Serves k (service.setInterface j x) := by
  constructor
  · intro ufrag i hi
    obtain ⟨hrtc, hindex, hufrag⟩ := h.name hi
    refine ⟨hrtc, hindex, ?_⟩
    change (if i = j then x else service.interfaces i).localUFrag = ufrag
    split
    · rename_i hij
      obtain rfl := hij
      exact (hx hrtc).trans hufrag
    · exact hufrag
  · exact h.route

theorem Serves.onStun (h : s.Serves k service) {Stun : Type*} (api : StunApi Stun)
    (transport : Transport) (data : List UInt8) (addr : SocketAddress) (nowMs : Int) :
    s.Serves k (RtcService.onStun api transport service data addr nowMs).1 := by
  have hparameters : ∀ i, ((RtcService.onStun api transport service data addr
      nowMs).1.interfaces i).localUFrag = (service.interfaces i).localUFrag :=
    fun i => Unregistration.localUFrag_step api service (.stun transport data addr nowMs) i
  constructor
  · intro ufrag i hi
    have hnames : (RtcService.onStun api transport service data addr
        nowMs).1.nameRtcInterface = service.nameRtcInterface :=
      (RtcService.onStun_names api transport addr nowMs).1
    rw [hnames] at hi
    rw [hparameters]
    exact h.name hi
  · intro key i hi
    cases hnamed : service.namedInterface api data with
    | none =>
        rw [RtcService.onStun_fst_of_none api transport addr nowMs hnamed] at hi
        exact h.route hi
    | some j =>
        rw [RtcService.getElem?_onStun_route api transport addr nowMs hnamed] at hi
        split at hi
        · obtain rfl := Option.some.inj hi
          obtain ⟨stun, _, hj⟩ := Option.bind_eq_some_iff.mp hnamed
          obtain ⟨hrtc, hindex, _⟩ := h.name hj
          exact ⟨hrtc, hindex⟩
        · exact h.route hi

end Services

/-- The other fields do not matter. -/
theorem Linked.congr {s s' : GbMediaService} (h : s.Linked) (hsessions : s'.sessions = s.sessions)
    (hheap : s'.sessionHeap = s.sessionHeap) (hindex : s'.rtcServiceIndex = s.rtcServiceIndex)
    (hresources : s'.resources = s.resources) (hnext : s'.nextResource = s.nextResource)
    (hservices : s'.rtcServices = s.rtcServices)
    (hposted : ∀ i, .dtlsEnded i ∈ s'.tasks → s.IsRtc i) : s'.Linked := by
  have hrtc : ∀ {i}, s.IsRtc i → s'.IsRtc i := by
    intro i hi
    rw [IsRtc, hnext, hresources]
    exact hi
  have hmember : ∀ {sid i}, s.Member sid i → s'.Member sid i := by
    intro sid i hi
    refine ⟨hnext ▸ hi.created, hresources ▸ hi.session, ?_⟩
    rw [hsessions, hheap]
    exact hi.listed
  constructor
  · intro name sid
    rw [hsessions, hindex, hheap]
    exact h.session
  · intro i
    rw [hnext, hresources, hindex]
    exact h.resource
  · intro sid i hi
    rw [hheap] at hi
    rw [hresources]
    exact ⟨hmember (h.producer hi).1, (h.producer hi).2⟩
  · intro sid i hi
    rw [hheap] at hi
    rw [hresources]
    exact ⟨hmember (h.consumer hi).1, (h.consumer hi).2⟩
  · intro k
    rw [hservices]
    apply (h.serves k).mono
    intro i hi
    refine ⟨hrtc hi, ?_⟩
    rw [serviceIndex, serviceIndex, hheap, hresources]
  · intro i hi
    exact hrtc (hposted i hi)

section Sessions

variable {s s' : GbMediaService} {sessionName : CString} {sid : SessionId}

theorem createSession_of_some (h : s.createSession sessionName = (s', some sid)) :
    s.sessions[sessionName]? = some sid ∧ s' = s ∨
      s.sessions[sessionName]? = none ∧ 2 ≤ (split sessionName).length ∧
        s' = s.newSession sessionName ∧ sid = s.rtcServiceIndex := by
  rw [createSession] at h
  split at h
  · rename_i hfound
    obtain ⟨rfl, rfl⟩ : s = s' ∧ _ = sid := by simpa using h
    exact Or.inl ⟨hfound, rfl⟩
  · rename_i hfound
    split at h
    · simp at h
    · rename_i hfields
      obtain ⟨rfl, rfl⟩ : s.newSession sessionName = s' ∧ s.rtcServiceIndex = sid := by
        simpa using h
      exact Or.inr ⟨hfound, Nat.not_lt.mp hfields, rfl, rfl⟩

theorem createSession_of_none (h : s.createSession sessionName = (s', none)) :
    s.sessions[sessionName]? = none ∧ (split sessionName).length < 2 ∧ s' = s := by
  rw [createSession] at h
  split at h
  · simp at h
  · rename_i hfound
    split at h
    · rename_i hshort
      obtain rfl : s = s' := by simpa using h
      exact ⟨hfound, hshort, rfl⟩
    · simp at h

theorem createSession_frame {α : Type*} (f : GbMediaService → α)
    (hnew : f (s.newSession sessionName) = f s) {found : Option SessionId}
    (hcreate : s.createSession sessionName = (s', found)) : f s' = f s := by
  cases found with
  | none =>
      obtain ⟨_, _, rfl⟩ := createSession_of_none hcreate
      rfl
  | some sid =>
      rcases createSession_of_some hcreate with ⟨_, rfl⟩ | ⟨_, _, rfl, _⟩
      · rfl
      · exact hnew

theorem Linked.newSession (h : s.Linked) (hfree : s.sessions[sessionName]? = none)
    (hfields : 2 ≤ (split sessionName).length) :
    (s.newSession sessionName).Linked := by
  have hsessions : ∀ (name : CString), (s.newSession sessionName).sessions[name]? =
      if sessionName = name then some s.rtcServiceIndex else s.sessions[name]? := by
    intro name
    change (s.sessions.insert sessionName _)[name]? = _
    simp only [ExtTreeMap.getElem?_insert, Std.LawfulEqCmp.compare_eq_iff_eq]
  have hheap : ∀ {sid}, sid < s.rtcServiceIndex →
      (s.newSession sessionName).sessionHeap sid = s.sessionHeap sid := by
    intro sid hlt
    exact Function.update_of_ne (Nat.ne_of_lt hlt) _ _
  have hmember : ∀ {sid i}, s.Member sid i → (s.newSession sessionName).Member sid i := by
    intro sid i hi
    refine ⟨hi.created, hi.session, ?_⟩
    rw [hheap (hi.session ▸ h.resource hi.created), hsessions, if_neg, hi.listed]
    rintro rfl
    rw [hi.listed] at hfree
    cases hfree
  have hendpoints : ∀ sid, (s.newSession sessionName).sessionHeap sid =
      s.sessionHeap sid ∨ ((s.newSession sessionName).sessionHeap sid).producer = none ∧
        ((s.newSession sessionName).sessionHeap sid).consumers = [] := by
    intro sid
    rcases eq_or_ne sid s.rtcServiceIndex with rfl | hne
    · right
      simp only [GbMediaService.newSession, Function.update_self, and_self]
    · exact Or.inl (Function.update_of_ne hne _ _)
  constructor
  · intro name sid hget
    rw [hsessions] at hget
    split at hget
    · rename_i hname
      obtain rfl := Option.some.inj hget
      refine ⟨Nat.lt_succ_self _, ?_, hname ▸ hfields⟩
      simpa only [GbMediaService.newSession, Function.update_self] using hname
    · obtain ⟨hlt, hname, hfields⟩ := h.session hget
      exact ⟨Nat.lt_succ_of_lt hlt, by rw [hheap hlt, hname], hfields⟩
  · intro i hi
    exact Nat.lt_succ_of_lt (h.resource hi)
  · intro sid i hi
    rcases hendpoints sid with heq | ⟨hnone, _⟩
    · rw [heq] at hi
      exact ⟨hmember (h.producer hi).1, (h.producer hi).2⟩
    · rw [hnone] at hi
      cases hi
  · intro sid i hi
    rcases hendpoints sid with heq | ⟨_, hnil⟩
    · rw [heq] at hi
      exact ⟨hmember (h.consumer hi).1, (h.consumer hi).2⟩
    · rw [hnil] at hi
      cases hi
  · intro k
    apply (h.serves k).mono
    intro i hi
    exact ⟨hi, congrArg Session.rtcService (hheap (h.resource hi.1))⟩
  · intro i hi
    exact h.posted hi

theorem Linked.createSession (h : s.Linked)
    (hcreate : s.createSession sessionName = (s', some sid)) :
    s'.Linked ∧ s'.sessions[sessionName]? = some sid := by
  rcases createSession_of_some hcreate with ⟨hfound, rfl⟩ | ⟨hfree, hfields, rfl, rfl⟩
  · exact ⟨h, hfound⟩
  · refine ⟨h.newSession hfree hfields, ?_⟩
    exact ExtTreeMap.getElem?_insert_self

end Sessions

section Reading

variable (s : GbMediaService) (sid : SessionId)

@[simp] theorem sessionHeap_withSession (f : Session → Session) :
    (s.withSession sid f).sessionHeap sid = f (s.sessionHeap sid) :=
  Function.update_self _ _ _

@[simp] theorem producer_setProducer (producer : Option ResourceId) :
    ((s.setProducer sid producer).sessionHeap sid).producer = producer := by
  rw [GbMediaService.setProducer, sessionHeap_withSession]

@[simp] theorem resources_newResource (type : ShareResourceType) (nowMs : Int) :
    (s.newResource sid type nowMs).resources s.nextResource =
      { type := type, session := sid, startTimestamp := nowMs } :=
  Function.update_self _ _ _

@[simp] theorem resources_newRtcResource (type : ShareResourceType) (kind : RtcKind)
    (secrets : IceSecrets) (nowMs : Int) :
    (s.newRtcResource sid type kind secrets nowMs).resources s.nextResource =
      { type := type, session := sid, startTimestamp := nowMs } :=
  resources_newResource s sid type nowMs

end Reading

section Endpoints

variable {s : GbMediaService} (h : s.Linked) {sid : SessionId}

include h

theorem Linked.newResource (hsid : sid < s.rtcServiceIndex) (type : ShareResourceType)
    (nowMs : Int) : (s.newResource sid type nowMs).Linked := by
  have hresources : ∀ {i}, i < s.nextResource →
      (s.newResource sid type nowMs).resources i = s.resources i := by
    intro i hi
    exact Function.update_of_ne (Nat.ne_of_lt hi) _ _
  have hmember : ∀ {sid' i}, s.Member sid' i → (s.newResource sid type nowMs).Member sid' i := by
    intro sid' i hi
    exact ⟨Nat.lt_succ_of_lt hi.created, by rw [hresources hi.created, hi.session], hi.listed⟩
  have hrtc : ∀ {i}, s.IsRtc i → (s.newResource sid type nowMs).IsRtc i := by
    intro i hi
    exact ⟨Nat.lt_succ_of_lt hi.1, by rw [hresources hi.1]; exact hi.2⟩
  constructor
  · exact h.session
  · intro i hi
    rcases Nat.lt_succ_iff_lt_or_eq.mp hi with hlt | rfl
    · rw [hresources hlt]
      exact h.resource hlt
    · simpa only [GbMediaService.newResource, Function.update_self] using hsid
  · intro sid' i hi
    obtain ⟨hi, htype⟩ := h.producer hi
    exact ⟨hmember hi, by rw [hresources hi.created, htype]⟩
  · intro sid' i hi
    obtain ⟨hi, htype⟩ := h.consumer hi
    exact ⟨hmember hi, by rw [hresources hi.created, htype]⟩
  · intro k
    apply (h.serves k).mono
    intro i hi
    refine ⟨hrtc hi, ?_⟩
    rw [serviceIndex, hresources hi.1]
    rfl
  · intro i hi
    exact hrtc (h.posted hi)

theorem Linked.updateService {k : Nat} {service : RtcService} (hserves : s.Serves k service) :
    { s with rtcServices := Function.update s.rtcServices k service }.Linked := by
  refine ⟨h.session, h.resource, ?_, ?_, ?_, h.posted⟩
  · intro sid i hi
    obtain ⟨hi, htype⟩ := h.producer hi
    exact ⟨⟨hi.created, hi.session, hi.listed⟩, htype⟩
  · intro sid i hi
    obtain ⟨hi, htype⟩ := h.consumer hi
    exact ⟨⟨hi.created, hi.session, hi.listed⟩, htype⟩
  · intro k'
    refine @Serves.mono s _ _ _ ?_ (fun hi => ⟨hi, rfl⟩)
    change s.Serves k' (Function.update s.rtcServices k service k')
    rcases eq_or_ne k' k with rfl | hne
    · rw [Function.update_self]
      exact hserves
    · rw [Function.update_of_ne hne]
      exact h.serves k'

theorem Linked.withRtcService {f : RtcService → RtcService}
    (hf : s.Serves (s.sessionHeap sid).rtcService
      (f (s.rtcServices (s.sessionHeap sid).rtcService))) :
    (s.withRtcService sid f).Linked :=
  h.updateService hf

theorem Linked.withSession {f : Session → Session}
    (hname : (f (s.sessionHeap sid)).sessionName = (s.sessionHeap sid).sessionName)
    (hservice : (f (s.sessionHeap sid)).rtcService = (s.sessionHeap sid).rtcService)
    (hproducer : ∀ i, (f (s.sessionHeap sid)).producer = some i →
      s.Member sid i ∧ (s.resources i).type.isProducer = true)
    (hconsumer : ∀ i ∈ (f (s.sessionHeap sid)).consumers,
      s.Member sid i ∧ (s.resources i).type.isConsumer = true) :
    (s.withSession sid f).Linked := by
  have hnames : ∀ sid', ((s.withSession sid f).sessionHeap sid').sessionName =
      (s.sessionHeap sid').sessionName := by
    intro sid'
    change (Function.update s.sessionHeap sid _ sid').sessionName = _
    rcases eq_or_ne sid' sid with rfl | hne
    · rw [Function.update_self, hname]
    · rw [Function.update_of_ne hne]
  have hservices : ∀ sid', ((s.withSession sid f).sessionHeap sid').rtcService =
      (s.sessionHeap sid').rtcService := by
    intro sid'
    change (Function.update s.sessionHeap sid _ sid').rtcService = _
    rcases eq_or_ne sid' sid with rfl | hne
    · rw [Function.update_self, hservice]
    · rw [Function.update_of_ne hne]
  have hmember : ∀ {sid' i}, s.Member sid' i → (s.withSession sid f).Member sid' i := by
    intro sid' i hi
    exact ⟨hi.created, hi.session, by rw [hnames]; exact hi.listed⟩
  constructor
  · intro name sid' hget
    rw [hnames]
    exact h.session hget
  · exact h.resource
  · intro sid' i hi
    change (Function.update s.sessionHeap sid _ sid').producer = some i at hi
    rcases eq_or_ne sid' sid with rfl | hne
    · rw [Function.update_self] at hi
      exact ⟨hmember (hproducer i hi).1, (hproducer i hi).2⟩
    · rw [Function.update_of_ne hne] at hi
      exact ⟨hmember (h.producer hi).1, (h.producer hi).2⟩
  · intro sid' i hi
    change i ∈ (Function.update s.sessionHeap sid _ sid').consumers at hi
    rcases eq_or_ne sid' sid with rfl | hne
    · rw [Function.update_self] at hi
      exact ⟨hmember (hconsumer i hi).1, (hconsumer i hi).2⟩
    · rw [Function.update_of_ne hne] at hi
      exact ⟨hmember (h.consumer hi).1, (h.consumer hi).2⟩
  · intro k
    apply (h.serves k).mono
    intro i hi
    exact ⟨hi, hservices _⟩
  · exact h.posted

theorem Linked.newRtcResource (hsid : sid < s.rtcServiceIndex) (type : ShareResourceType)
    (kind : RtcKind) (secrets : IceSecrets) (nowMs : Int) :
    (s.newRtcResource sid type kind secrets nowMs).Linked := by
  rw [GbMediaService.newRtcResource, newRtcInterface]
  apply (h.newResource hsid type nowMs).withRtcService
  apply @Serves.mono s
  · apply (h.serves _).setInterface
    rintro ⟨hcreated, _⟩
    exact absurd hcreated (Nat.lt_irrefl _)
  · intro i hi
    have hresource : (s.newResource sid type nowMs).resources i = s.resources i :=
      Function.update_of_ne (Nat.ne_of_lt hi.1) _ _
    refine ⟨⟨Nat.lt_succ_of_lt hi.1, ?_⟩, ?_⟩
    · rw [hresource]
      exact hi.2
    · rw [serviceIndex, hresource]
      rfl

theorem Linked.setProducer {producer : Option ResourceId}
    (hproducer : ∀ i, producer = some i →
      s.Member sid i ∧ (s.resources i).type.isProducer = true) :
    (s.setProducer sid producer).Linked :=
  h.withSession rfl rfl hproducer fun _ => h.consumer

theorem Linked.addConsumer {consumer : ResourceId} (hmember : s.Member sid consumer)
    (htype : (s.resources consumer).type.isConsumer = true) :
    (s.addConsumer sid consumer).Linked := by
  apply h.withSession rfl rfl (fun _ => h.producer)
  intro i hi
  rcases List.mem_insert_iff.mp hi with rfl | hi
  · exact ⟨hmember, htype⟩
  · exact h.consumer hi

theorem Linked.removeConsumer (consumer : ResourceId) :
    (s.removeConsumer sid consumer).Linked := by
  apply h.withSession rfl rfl (fun _ => h.producer)
  intro i hi
  exact h.consumer (List.mem_of_mem_filter hi)

theorem Linked.registerRtcInterface {i : ResourceId} (hrtc : s.IsRtc i)
    (hsession : (s.resources i).session = sid) : (s.registerRtcInterface sid i).Linked := by
  subst hsession
  exact h.withRtcService ((h.serves _).register hrtc rfl)

theorem Linked.unregisterRtcInterface (i : ResourceId) :
    (s.unregisterRtcInterface sid i).Linked :=
  h.withRtcService ((h.serves _).unregister i)

theorem Linked.dropProducer (p : ResourceId) : (s.dropProducer sid p).Linked :=
  (h.unregisterRtcInterface p).setProducer nofun

theorem Linked.dropConsumer (c : ResourceId) : (GbMediaService.dropConsumer sid s c).Linked :=
  (h.unregisterRtcInterface c).removeConsumer c

theorem Linked.withTasks {tasks : List Task}
    (htasks : ∀ i, .dtlsEnded i ∈ tasks → s.IsRtc i) : { s with tasks := tasks }.Linked :=
  h.congr rfl rfl rfl rfl rfl rfl htasks

theorem Linked.post {tasks : List Task} (htasks : ∀ i, .dtlsEnded i ∈ tasks → s.IsRtc i) :
    (s.post tasks).Linked := by
  apply h.withTasks
  intro i hi
  rcases List.mem_append.mp hi with hi | hi
  · exact h.posted hi
  · exact htasks i hi

end Endpoints

end GbMediaService

end GBServer
