import GBServer.HlsRequests

namespace GBServer.WebService

open Foundation.CStrings
open GBServer.SessionName

section LastMark

variable {p : UInt8 → Bool}

theorem afterLast_append {front back : CString} {mark : UInt8} (hmark : p mark = true)
    (hback : ∀ byte ∈ back, p byte = false) : afterLast p (front ++ mark :: back) = some back := by
  have hany : (front ++ mark :: back).any p = true :=
    List.any_eq_true.mpr ⟨mark, List.mem_append_right front List.mem_cons_self, hmark⟩
  rw [afterLast, if_pos hany, List.reverse_append, List.reverse_cons, List.append_assoc,
    List.takeWhile_append_of_pos]
  · simp [hmark]
  · intro byte hbyte
    rw [hback byte (List.mem_reverse.mp hbyte)]
    rfl

theorem afterLast_of_forall {s : CString} (h : ∀ byte ∈ s, p byte = false) :
    afterLast p s = none := by
  rw [afterLast, if_neg]
  intro hany
  obtain ⟨byte, hbyte, hp⟩ := List.any_eq_true.mp hany
  rw [h byte hbyte] at hp
  contradiction

/-- A string without a mark, or the strings in front of and behind its last mark. -/
theorem lastMark_cases (p : UInt8 → Bool) (s : CString) :
    (∀ byte ∈ s, p byte = false) ∨
      ∃ front mark back, p mark = true ∧ (∀ byte ∈ back, p byte = false) ∧
        s = front ++ mark :: back := by
  induction s with
  | nil => exact .inl fun byte hbyte => absurd hbyte List.not_mem_nil
  | cons first rest ih =>
      rcases ih with hnone | ⟨front, mark, back, hmark, hback, rfl⟩
      · cases hfirst : p first with
        | true => exact .inr ⟨[], first, rest, hfirst, hnone, rfl⟩
        | false => exact .inl (List.forall_mem_cons.mpr ⟨hfirst, hnone⟩)
      · exact .inr ⟨first :: front, mark, back, hmark, hback, rfl⟩

end LastMark

def isSeparator (byte : UInt8) : Bool := byte == slash || byte == backslash

def isDot (byte : UInt8) : Bool := byte == dot

/-- What stands behind the last separator of either kind. -/
def lastSegment (path : CString) : CString := (afterLast isSeparator path).getD path

structure Extension (ext : CString) : Prop where
  nonempty : ext ≠ []
  separator : ∀ byte ∈ ext, isSeparator byte = false
  dot : ∀ byte ∈ ext, isDot byte = false

/-- `name.ext` -/
def Named (ext segment : CString) : Prop := ∃ name, name ≠ [] ∧ segment = name ++ dot :: ext

theorem lastSegment_of_forall {path : CString} (h : ∀ byte ∈ path, isSeparator byte = false) :
    lastSegment path = path := by
  rw [lastSegment, afterLast_of_forall h]
  rfl

theorem lastSegment_append {front back : CString} {mark : UInt8} (hmark : isSeparator mark = true)
    (hback : ∀ byte ∈ back, isSeparator byte = false) :
    lastSegment (front ++ mark :: back) = back := by
  rw [lastSegment, afterLast_append hmark hback]
  rfl

theorem fileNameExt_eq (path : CString) :
    fileNameExt path = if lastSegment path = [] then path else lastSegment path := by
  have hseparator : (fun byte => byte == slash || byte == backslash) = isSeparator := rfl
  rw [fileNameExt, hseparator, lastSegment]
  rcases afterLast isSeparator path with _ | ⟨_ | ⟨byte, rest⟩⟩
  · simp
  · simp
  · simp

def extensionOf (filename : CString) : CString :=
  match afterLast isDot filename with
  | some ext => if ext.length + 1 = filename.length then filename else ext
  | none => filename

theorem fileExt_eq (path : CString) : fileExt path = extensionOf (fileNameExt path) := rfl

/-- What stands behind the last dot is the extension, if something stands in front of it. -/
theorem extensionOf_append (front : CString) {ext : CString}
    (h : ∀ byte ∈ ext, isDot byte = false) :
    extensionOf (front ++ dot :: ext) = if front = [] then dot :: ext else ext := by
  rw [extensionOf, afterLast_append (p := isDot) (by decide) h]
  cases front with
  | nil => simp
  | cons byte rest =>
      have hlength : ¬ ext.length + 1 = (byte :: rest ++ dot :: ext).length := by
        simp only [List.length_append, List.length_cons]
        omega
      simp only [hlength, if_false, reduceCtorEq]

theorem extensionOf_of_forall {filename : CString} (h : ∀ byte ∈ filename, isDot byte = false) :
    extensionOf filename = filename := by
  rw [extensionOf, afterLast_of_forall h]

theorem isDot_append_of_named (front : CString) {ext back : CString}
    (heq : front ++ dot :: ext = back) (h : ∀ byte ∈ back, isDot byte = false) : False := by
  have hdot := h dot (heq ▸ List.mem_append_right front List.mem_cons_self)
  exact absurd hdot (by decide)

theorem extensionOf_eq_iff {ext : CString} (hext : Extension ext) (filename : CString) :
    extensionOf filename = ext ↔ filename = ext ∨ Named ext filename := by
  rcases lastMark_cases isDot filename with hnone | ⟨front, mark, back, hmark, hback, rfl⟩
  · rw [extensionOf_of_forall hnone]
    constructor
    · exact .inl
    · rintro (heq | ⟨name, _, rfl⟩)
      · exact heq
      · exact (isDot_append_of_named _ rfl hnone).elim
  · obtain rfl : mark = dot := by simpa [isDot] using hmark
    rw [extensionOf_append front hback]
    constructor
    · intro heq
      split at heq
      · exact (isDot_append_of_named [] heq hext.dot).elim
      · rename_i hfront
        exact .inr ⟨front, hfront, by rw [heq]⟩
    · rintro (heq | ⟨name, hname, heq⟩)
      · exact (isDot_append_of_named front heq hext.dot).elim
      · have hsame : afterLast isDot (front ++ dot :: back) = some ext := by
          rw [heq]
          exact afterLast_append (by decide) hext.dot
        rw [afterLast_append (by decide) hback] at hsame
        obtain rfl := Option.some.inj hsame
        obtain rfl := List.append_cancel_right heq
        exact if_neg hname

theorem not_suffix_of_lastSegment_nil {path ext : CString} (hext : Extension ext)
    (h : lastSegment path = []) : ¬ ext <:+ path := by
  rintro ⟨front, rfl⟩
  rcases lastMark_cases isSeparator (front ++ ext) with hnone | ⟨dir, mark, back, hmark, hback, heq⟩
  · rw [lastSegment_of_forall hnone] at h
    exact hext.nonempty (List.append_eq_nil_iff.mp h).2
  · rw [heq, lastSegment_append hmark hback] at h
    subst h
    have hlast : ext.getLast? = some mark := by
      rw [← List.getLast?_append_of_ne_nil front hext.nonempty, heq]
      simp
    have hseparator := hext.separator mark (List.mem_of_getLast? hlast)
    exact Bool.false_ne_true (hseparator.symm.trans hmark)

/-- A path has the extension if its last segment does, also when it is nothing else. -/
theorem fileExt_eq_iff {ext : CString} (hext : Extension ext) (path : CString) :
    fileExt path = ext ↔ lastSegment path = ext ∨ Named ext (lastSegment path) := by
  rw [fileExt_eq, extensionOf_eq_iff hext, fileNameExt_eq]
  split
  · rename_i hempty
    have hsuffix := not_suffix_of_lastSegment_nil hext hempty
    rw [hempty]
    refine iff_of_false ?_ ?_
    · rintro (rfl | ⟨name, _, rfl⟩)
      · exact hsuffix (List.suffix_refl _)
      · exact hsuffix ⟨name ++ [dot], by simp⟩
    · rintro (hnil | ⟨name, _, heq⟩)
      · exact hext.nonempty hnil.symm
      · exact absurd heq (by simp)
  · rfl

section Routing

def extensionHandlers : List (CString × Handler) :=
  [(ascii "flv", .flvConsumer), (ascii "m3u8", .m3u8Consumer), (ascii "ts", .tsConsumer)]

/-- The path is one of the full paths, or starts with one of the prefixes. -/
def Registered (httpApiStats : Bool) (path : CString) : Prop :=
  ∃ entry ∈ callbackMap httpApiStats,
    slash ∈ entry.1 ∧ (entry.1 = path ∨ isPattern entry.1 = true ∧ entry.1 <+: path)

theorem extension_of_all {ext : CString} (hnonempty : ext ≠ [])
    (hall : ext.all (fun byte => !isDot byte && !isSeparator byte) = true) : Extension ext := by
  have hplain : ∀ byte ∈ ext, isDot byte = false ∧ isSeparator byte = false := by
    intro byte hbyte
    have hboth := List.all_eq_true.mp hall byte hbyte
    rwa [Bool.and_eq_true, Bool.not_eq_true', Bool.not_eq_true'] at hboth
  exact ⟨hnonempty, fun byte h => (hplain byte h).2, fun byte h => (hplain byte h).1⟩

theorem extension_of_mem {entry : CString × Handler} (h : entry ∈ extensionHandlers) :
    Extension entry.1 := by
  simp only [extensionHandlers, List.mem_cons, List.not_mem_nil, or_false] at h
  rcases h with rfl | rfl | rfl
  · exact extension_of_all (by decide) (by decide)
  · exact extension_of_all (by decide) (by decide)
  · exact extension_of_all (by decide) (by decide)

theorem lookup_eq_some_iff {httpApiStats : Bool} {entry : CString × Handler}
    (h : entry ∈ extensionHandlers) (key : CString) :
    (callbackMap httpApiStats).lookup key = some entry.2 ↔ key = entry.1 := by
  simp only [extensionHandlers, List.mem_cons, List.not_mem_nil, or_false] at h
  constructor
  · intro hlookup
    obtain ⟨front, back, hmap, _⟩ := List.lookup_eq_some_iff.mp hlookup
    have hmem : (key, entry.2) ∈ callbackMap httpApiStats := by
      rw [hmap]
      exact List.mem_append_right front List.mem_cons_self
    rcases h with rfl | rfl | rfl <;> cases httpApiStats <;> simpa [callbackMap] using hmem
  · rintro rfl
    rcases h with rfl | rfl | rfl <;> cases httpApiStats <;> decide

theorem slash_mem_or_fileExt_eq {httpApiStats : Bool} :
    ∀ entry ∈ callbackMap httpApiStats, slash ∈ entry.1 ∨ fileExt entry.1 = entry.1 := by
  cases httpApiStats <;> decide

/-- A path that is not registered is routed by what `FileExt` makes of it. -/
theorem route_eq_lookup {httpApiStats : Bool} {path : CString}
    (h : ¬ Registered httpApiStats path) :
    route httpApiStats path = (callbackMap httpApiStats).lookup (fileExt path) := by
  rw [route]
  cases hlookup : (callbackMap httpApiStats).lookup path with
  | some handler =>
      obtain ⟨front, back, hmap, _⟩ := List.lookup_eq_some_iff.mp hlookup
      have hmem : (path, handler) ∈ callbackMap httpApiStats := by
        rw [hmap]
        exact List.mem_append_right front List.mem_cons_self
      rcases slash_mem_or_fileExt_eq _ hmem with hslash | hext
      · exact absurd ⟨_, hmem, hslash, .inl rfl⟩ h
      · rw [hext, hlookup]
  | none =>
      have hpatterns : (callbackMap httpApiStats).find? (fun pair =>
          isPattern pair.1 && pair.1.isPrefixOf path) = none := by
        rw [List.find?_eq_none]
        intro entry hentry hmatch
        obtain ⟨hpattern, hprefix⟩ := Bool.and_eq_true_iff.mp hmatch
        have hslash : slash ∈ entry.1 := List.mem_of_getLast? (beq_iff_eq.mp hpattern)
        exact h ⟨entry, hentry, hslash, .inr ⟨hpattern, List.isPrefixOf_iff_prefix.mp hprefix⟩⟩
      simp only [hpatterns]

theorem streamOfPath_append {base ext : CString} (hext : Extension ext) :
    streamOfPath (base ++ dot :: ext) =
      getSessionNameFromUrl (ascii "http://chensong.com" ++ base) := by
  rw [streamOfPath, flvUrl_of_ext base]
  intro hmem
  exact absurd (hext.dot dot hmem) (by decide)

def lastField (path : CString) : CString := (split path).getLast (List.splitOn_ne_nil slash path)

/-- How the paths of an extension should be routed, and which stream they should name. -/
structure RoutedExactly (httpApiStats : Bool) (entry : CString × Handler)
    (segment path : CString) : Prop where
  selected : route httpApiStats path = some entry.2 ↔ Named entry.1 segment
  stream : route httpApiStats path = some entry.2 → ∃ base, path = base ++ dot :: entry.1 ∧
    streamOfPath path = getSessionNameFromUrl (ascii "http://chensong.com" ++ base)

theorem lastSegment_suffix (path : CString) : lastSegment path <:+ path := by
  rcases lastMark_cases isSeparator path with hnone | ⟨front, mark, back, hmark, hback, rfl⟩
  · rw [lastSegment_of_forall hnone]
  · rw [lastSegment_append hmark hback]
    exact ⟨front ++ [mark], (List.append_cons front mark back).symm⟩

/-- A path whose last segment, behind a separator of either kind, is more than the
extension itself is routed by it, and names its stream by the rest. -/
theorem routedExactly_lastSegment (httpApiStats : Bool) {entry : CString × Handler}
    (hentry : entry ∈ extensionHandlers) {path : CString} (hpath : ¬ Registered httpApiStats path)
    (hbare : lastSegment path ≠ entry.1) :
    RoutedExactly httpApiStats entry (lastSegment path) path := by
  have hext := extension_of_mem hentry
  have hselected : route httpApiStats path = some entry.2 ↔ Named entry.1 (lastSegment path) := by
    rw [route_eq_lookup hpath, lookup_eq_some_iff hentry, fileExt_eq_iff hext]
    exact or_iff_right hbare
  refine ⟨hselected, fun hroute => ?_⟩
  obtain ⟨name, _, hname⟩ := hselected.mp hroute
  obtain ⟨dir, hdir⟩ := lastSegment_suffix path
  have hwhole : path = (dir ++ name) ++ dot :: entry.1 := by rw [← hdir, hname, List.append_assoc]
  exact ⟨dir ++ name, hwhole, by rw [hwhole, streamOfPath_append hext]⟩

instance (httpApiStats : Bool) (path : CString) : Decidable (Registered httpApiStats path) :=
  inferInstanceAs (Decidable (∃ entry ∈ callbackMap httpApiStats, _))

/-- The FLV stream of a camera. -/
theorem routedExactly_cam :
    ¬ Registered true (ascii "/live/cam.flv") ∧ lastSegment (ascii "/live/cam.flv") ≠ ascii "flv" ∧
      RoutedExactly true (ascii "flv", .flvConsumer) (lastSegment (ascii "/live/cam.flv"))
        (ascii "/live/cam.flv") :=
  ⟨by decide, by decide,
    routedExactly_lastSegment true List.mem_cons_self (by decide) (by decide)⟩

/-- Behind a backslash the name is empty. -/
theorem not_routedExactly_backslash :
    ¬ ∀ (httpApiStats : Bool) (entry : CString × Handler) (path : CString),
      entry ∈ extensionHandlers → ¬ Registered httpApiStats path →
        RoutedExactly httpApiStats entry (lastField path) path := by
  intro hall
  have hselected := (hall true (ascii "flv", .flvConsumer) (ascii "/live/a\\.flv")
    List.mem_cons_self (by decide)).selected
  have hnamed : Named (ascii "flv") (lastField (ascii "/live/a\\.flv")) :=
    ⟨ascii "a\\", by decide, by decide⟩
  exact absurd (hselected.mpr hnamed) (by decide)

end Routing

end GBServer.WebService
