import GBServer.MediaRequests

namespace GBServer.SessionUrls

open Foundation.CStrings
open GBServer.GbMediaService
open GBServer.SessionName

def joined (fields : List CString) : CString := [slash].intercalate fields

structure Segment (field : CString) : Prop where
  nonempty : field ≠ []
  slash_notMem : slash ∉ field

/-- `proto://host/app/stream` or `proto://host/domain/app/stream`. -/
inductive NamesStream (url app stream : CString) : Prop
  | short (proto host : CString) (hsegments : ∀ field ∈ [proto, host, app, stream], Segment field)
      (hurl : url = joined [proto ++ ascii ":", [], host, app, stream])
  | long (proto host domain : CString)
      (hsegments : ∀ field ∈ [proto, host, domain, app, stream], Segment field)
      (hurl : url = joined [proto ++ ascii ":", [], host, domain, app, stream])

example : joined [ascii "webrtc" ++ ascii ":", [], ascii "example.org:9091", ascii "live",
    ascii "test"] = ascii "webrtc://example.org:9091/live/test" := by
  decide

/-- The name is the one of the stream if the URL names a stream, and otherwise it is empty
and no session is made under it. -/
structure ParsedExactly (url : CString) : Prop where
  named : ∀ app stream, NamesStream url app stream →
    getSessionNameFromUrl url = app ++ slash :: stream
  empty : (∀ app stream, ¬ NamesStream url app stream) → getSessionNameFromUrl url = []
  noSession : (∀ app stream, ¬ NamesStream url app stream) →
    ∀ s : GbMediaService, (s.createSession (getSessionNameFromUrl url)).1.sessions = s.sessions

theorem joined_split (source : CString) : joined (split source) = source :=
  List.intercalate_splitOn slash

theorem split_joined {fields : List CString} (h : ∀ field ∈ fields, slash ∉ field)
    (hne : fields ≠ []) : split (joined fields) = fields :=
  List.splitOn_intercalate slash h hne

theorem slash_notMem_of_mem_split {source field : CString} (h : field ∈ split source) :
    slash ∉ field := by
  induction source generalizing field with
  | nil =>
      obtain rfl := List.mem_singleton.mp h
      exact List.not_mem_nil
  | cons byte rest ih =>
      rw [split, List.splitOn_cons_eq_if_modifyHead] at h
      split at h
      · rcases List.mem_cons.mp h with rfl | hrest
        · exact List.not_mem_nil
        · exact ih hrest
      · rename_i hbyte
        obtain ⟨first, more, hsplit⟩ := List.exists_cons_of_ne_nil (List.splitOn_ne_nil slash rest)
        rw [hsplit, List.modifyHead_cons] at h
        have hfields : ∀ f ∈ first :: more, slash ∉ f := by
          intro f hf
          exact ih (show f ∈ List.splitOn slash rest by rwa [hsplit])
        rcases List.mem_cons.mp h with rfl | hmore
        · intro hmem
          rcases List.mem_cons.mp hmem with heq | hfirst
          · exact hbyte (by rw [heq]; exact BEq.rfl)
          · exact hfields first List.mem_cons_self hfirst
        · exact hfields field (List.mem_cons_of_mem first hmore)

/-- The fields of a URL that names a stream. -/
theorem NamesStream.split {url app stream : CString} (h : NamesStream url app stream) :
    (∃ scheme host, SessionName.split url = [scheme, [], host, app, stream]) ∨
      ∃ scheme host domain, SessionName.split url = [scheme, [], host, domain, app, stream] := by
  have hscheme : ∀ proto : CString, slash ∉ proto → slash ∉ proto ++ ascii ":" := by
    intro proto hproto hmem
    rcases List.mem_append.mp hmem with hmem | hcolon
    · exact hproto hmem
    · revert hcolon
      decide
  cases h with
  | short proto host hsegments hurl =>
      refine .inl ⟨_, host, hurl ▸ split_joined ?_ (List.cons_ne_nil _ _)⟩
      have hslash := fun field hfield => (hsegments field hfield).slash_notMem
      simp only [List.forall_mem_cons] at hslash ⊢
      exact ⟨hscheme proto hslash.1, List.not_mem_nil, hslash.2⟩
  | long proto host domain hsegments hurl =>
      refine .inr ⟨_, host, domain, hurl ▸ split_joined ?_ (List.cons_ne_nil _ _)⟩
      have hslash := fun field hfield => (hsegments field hfield).slash_notMem
      simp only [List.forall_mem_cons] at hslash ⊢
      exact ⟨hscheme proto hslash.1, List.not_mem_nil, hslash.2⟩

theorem NamesStream.length_split {url app stream : CString} (h : NamesStream url app stream) :
    (SessionName.split url).length = 5 ∨ (SessionName.split url).length = 6 := by
  rcases h.split with ⟨_, _, hsplit⟩ | ⟨_, _, _, hsplit⟩
  · exact .inl (by rw [hsplit]; rfl)
  · exact .inr (by rw [hsplit]; rfl)

theorem NamesStream.getSessionNameFromUrl {url app stream : CString}
    (h : NamesStream url app stream) :
    SessionName.getSessionNameFromUrl url = app ++ slash :: stream := by
  rcases h.split with ⟨_, _, hsplit⟩ | ⟨_, _, _, hsplit⟩
  · rw [SessionName.getSessionNameFromUrl, hsplit]
    rfl
  · rw [SessionName.getSessionNameFromUrl, hsplit]
    rfl

theorem getSessionNameFromUrl_of_lt {url : CString} (h : (split url).length < 5) :
    getSessionNameFromUrl url = [] := by
  rw [getSessionNameFromUrl, if_pos h]

theorem getSessionNameFromUrl_ne_nil {url : CString} (h : ¬ (split url).length < 5) :
    getSessionNameFromUrl url ≠ [] := by
  rw [getSessionNameFromUrl, if_neg h]
  exact List.append_ne_nil_of_right_ne_nil _ (List.cons_ne_nil _ _)

theorem createSession_nil (s : GbMediaService) : (s.createSession []).1 = s := by
  rw [createSession]
  cases s.sessions[([] : CString)]? with
  | some sid => rfl
  | none => rfl

/-- The strings that are parsed as they should be: those of fewer than five fields, and the
URLs that name a stream. -/
theorem parsedExactly_iff (url : CString) :
    ParsedExactly url ↔
      (split url).length < 5 ∨ ∃ app stream, NamesStream url app stream := by
  constructor
  · intro h
    by_contra hother
    obtain ⟨hlong, hnone⟩ := not_or.mp hother
    simp only [not_exists] at hnone
    exact getSessionNameFromUrl_ne_nil hlong (h.empty hnone)
  · rintro (hshort | ⟨app, stream, hnames⟩)
    · refine ⟨fun app stream hnames => ?_, fun _ => getSessionNameFromUrl_of_lt hshort,
        fun _ s => ?_⟩
      · have hlength := hnames.length_split
        omega
      · rw [getSessionNameFromUrl_of_lt hshort, createSession_nil]
    · exact ⟨fun _ _ h => h.getSessionNameFromUrl, fun hnone => absurd hnames (hnone app stream),
        fun hnone => absurd hnames (hnone app stream)⟩

/-- Seven fields give the name `/`. -/
theorem not_parsedExactly_sevenFields : ¬ ∀ url, ParsedExactly url := by
  intro hall
  have hseven : (split (ascii "webrtc://example.org/a/b/live/test")).length = 7 := by decide
  have hname : getSessionNameFromUrl (ascii "webrtc://example.org/a/b/live/test") = ascii "/" := by
    decide
  have hempty := (hall (ascii "webrtc://example.org/a/b/live/test")).empty
    fun app stream hnames => by
      have hlength := hnames.length_split
      omega
  rw [hname] at hempty
  exact absurd hempty (by decide)

end GBServer.SessionUrls
