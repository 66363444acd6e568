import Mathlib.Algebra.GroupWithZero.Nat
import Mathlib.Data.List.Chain
import Mathlib.Data.List.TakeWhile
import GBServer.Foundation.CStrings
import GBServer.Foundation.Runs

namespace GBServer.LogRotation

open Foundation.CStrings
open Foundation.Runs

/-- A local date as `localtime_r` gives it. -/
structure Date where
  year : Nat
  month : Nat
  day : Nat
  monthRange : 1 ≤ month ∧ month ≤ 12
  dayRange : 1 ≤ day ∧ day ≤ 31
  deriving DecidableEq, Repr

def Date.number (d : Date) : Nat := (d.year * 100 + d.month) * 100 + d.day

structure FileLogConfig where
  enabled : Bool
  directory : CString
  maxLinesPerFile : Int
  retentionDays : Int

/-- A file of the directory, with the date and the part that its name is made of. -/
structure LogFile where
  path : CString
  date : Date
  part : Nat
  messages : List CString

/-- `current_time_key_` is replaced: what it was, the date of the last message, and the date
that the new key is made of. -/
structure Taken where
  old : CString
  clock : Date
  now : Date

/-- `clock` is the last date read, `opened` are the parts opened so far with their dates,
`keys` the keys taken, and `written` the messages handed over. -/
structure FileLogWriter where
  cfg : FileLogConfig
  clock : Date
  file : Option CString := none
  currentTimeKey : CString := []
  partIndex : Nat := 1
  linesInCurrentFile : Nat := 0
  files : List LogFile := []
  opened : List (Date × Nat) := []
  keys : List Taken := []
  written : List CString := []

/-- A message, and the dates that `TodayLocalDateString` and `NowLocalDateTimeKeyString`
find when it is written. -/
structure Message where
  payload : CString
  today : Date
  now : Date

def todayLocalDateString (d : Date) : CString :=
  padded 4 d.year ++ (padded 2 d.month ++ padded 2 d.day)

/-- The hour, minute and second are commented out. -/
def nowLocalDateTimeKeyString (d : Date) : CString :=
  padded 4 d.year ++ (padded 2 d.month ++ padded 2 d.day)

def countLinesInMessage (message : CString) : Nat :=
  let text := message.takeWhile (· != 0)
  if text = [] then 0
  else text.count 0x0A + if text.getLast? = some 0x0A then 0 else 1

/-- The lines of messages that are written one after the other. -/
def countLines (messages : List CString) : Nat := (messages.map countLinesInMessage).sum

def makeFilePath (directory key : CString) (part : Nat) : CString :=
  let name := ascii "gbmedia_server_" ++ (key ++ (0x5F :: (padded 2 part ++ ascii ".log")))
  let base := if directory ≠ [] ∧ directory.getLast? ≠ some 0x2F ∧ directory.getLast? ≠ some 0x5C
    then directory ++ [0x2F] else directory
  base ++ name

/-- One `%d` of `sscanf`: an optional sign and at least one digit. -/
def scanInt (s : CString) : Option CString :=
  let s := s.dropWhile isSpace
  let unsigned := match s with
    | 0x2D :: rest | 0x2B :: rest => rest
    | rest => rest
  if (unsigned.takeWhile isDigit).isEmpty then none else some (unsigned.dropWhile isDigit)

/-- Whether the text has ten bytes and `sscanf` reads three numbers with `"%d-%d-%d"`. -/
def parsesYmd (s : CString) : Bool :=
  s.length == 10 && match scanInt s with
    | some (0x2D :: rest) =>
        match scanInt rest with
        | some (0x2D :: rest) => (scanInt rest).isSome
        | _ => false
    | _ => false

/-- `PurgeExpiredLogsLocked` goes on to look at the directory. -/
def purgesExpiredLogs (cfg : FileLogConfig) (today : Date) : Bool :=
  decide (0 < cfg.retentionDays) && parsesYmd (todayLocalDateString today)

def segmentDate (key : CString) : CString := if 10 ≤ key.length then key.take 10 else []

namespace FileLogWriter

/-- `Configure` on a new writer, at the date `clock`. -/
def configure (cfg : FileLogConfig) (clock : Date) : FileLogWriter :=
  { cfg :=
      { cfg with
        maxLinesPerFile := if cfg.maxLinesPerFile < 1 then 1 else cfg.maxLinesPerFile
        retentionDays := if cfg.retentionDays < 0 then 0 else cfg.retentionDays }
    clock }

/-- The name of the part with this number of the day `d`. -/
def pathOf (s : FileLogWriter) (d : Date) (part : Nat) : CString :=
  makeFilePath s.cfg.directory (nowLocalDateTimeKeyString d) part

/-- `fopen` with `"ab"`: a file that exists is continued. -/
def openNewFile (s : FileLogWriter) : FileLogWriter :=
  let path := makeFilePath s.cfg.directory s.currentTimeKey s.partIndex
  { s with
    file := some path
    linesInCurrentFile := 0
    files := if s.files.any (·.path == path) then s.files
      else s.files ++ [⟨path, s.clock, s.partIndex, []⟩]
    opened := s.opened ++ [(s.clock, s.partIndex)] }

/-- `PurgeExpiredLogsLocked` comes next and removes nothing: `purgesExpiredLogs_eq_false`. -/
def takeKey (s : FileLogWriter) (now : Date) : FileLogWriter :=
  { s with
    currentTimeKey := nowLocalDateTimeKeyString now
    clock := now
    keys := s.keys ++ [⟨s.currentTimeKey, s.clock, now⟩] }

def maybeRotateByDate (s : FileLogWriter) (today now : Date) : FileLogWriter :=
  if s.currentTimeKey = [] then (s.takeKey now).openNewFile
  else if todayLocalDateString today = segmentDate s.currentTimeKey then { s with clock := today }
  else openNewFile { s.takeKey now with file := none, partIndex := 1 }

def maybeRotateByLines (s : FileLogWriter) (linesAdded : Nat) : FileLogWriter :=
  if s.file = none then s
  else
    let s := { s with linesInCurrentFile := s.linesInCurrentFile + linesAdded }
    if (s.linesInCurrentFile : Int) < s.cfg.maxLinesPerFile then s
    else openNewFile { s with partIndex := s.partIndex + 1 }

def ensureCurrentFile (s : FileLogWriter) (today now : Date) : FileLogWriter :=
  if s.cfg.enabled = false then { s with file := none }
  else
    let s := s.maybeRotateByDate today now
    if s.file ≠ none then s
    else if s.currentTimeKey = [] then (s.takeKey now).openNewFile
    else s.openNewFile

def fwrite (s : FileLogWriter) (payload : CString) : FileLogWriter :=
  { s with
    files := s.files.map fun f =>
      if s.file = some f.path then { f with messages := f.messages ++ [payload] } else f }

def writePayload (s : FileLogWriter) (m : Message) : FileLogWriter :=
  if s.cfg.enabled = false then s
  else
    let s := s.ensureCurrentFile m.today m.now
    let s := { s with written := s.written ++ [m.payload] }
    if s.file = none then s
    else
      let lineDelta := countLinesInMessage m.payload
      let s := s.fwrite m.payload
      if 0 < lineDelta then s.maybeRotateByLines lineDelta else s

def InOrder (s : FileLogWriter) (m : Message) : Prop :=
  s.clock.number ≤ m.today.number ∧ m.today.number ≤ m.now.number

instance (s : FileLogWriter) (m : Message) : Decidable (s.InOrder m) :=
  inferInstanceAs (Decidable (_ ∧ _))

def step (s : FileLogWriter) (m : Message) : FileLogWriter :=
  if s.InOrder m then s.writePayload m else s

end FileLogWriter

/-- The parts of a day in the order they were opened in. -/
def partsOf (opened : List (Date × Nat)) (d : Date) : List Nat :=
  (opened.filter (·.1 = d)).map Prod.snd

/-- Parts that are opened one after the other: 1, 2, 3, ... -/
structure Numbered (parts : List Nat) : Prop where
  first : ∀ p ∈ parts.head?, p = 1
  next : parts.IsChain fun p q => q = p + 1

def LogFile.before (f g : LogFile) : Bool :=
  f.date.number < g.date.number || f.date.number == g.date.number && f.part ≤ g.part

def LogFile.content (f : LogFile) : CString := f.messages.flatten

namespace FileLogWriter

/-- Each file has less than the maximum of lines before its last message; the parts of a
day are numbered and none is opened again; a new key is taken only when the date has changed;
and the files, read in order, are the messages written. -/
structure Rotates (s : FileLogWriter) : Prop where
  bounded : ∀ f ∈ s.files, (countLines f.messages.dropLast : Int) < s.cfg.maxLinesPerFile
  numbered : ∀ d, Numbered (partsOf s.opened d)
  keys : ∀ t ∈ s.keys, t.old ≠ [] → t.clock ≠ t.now
  ordered : (s.files.mergeSort LogFile.before).flatMap LogFile.content = s.written.flatten

/-- A message on the date of the key comes only while the key has the ten characters that the
test of the date compares. -/
def DateTested (s : FileLogWriter) (m : Message) : Prop :=
  s.cfg.enabled = true → s.InOrder m → nowLocalDateTimeKeyString m.now = s.currentTimeKey →
    s.currentTimeKey.length = 10

end FileLogWriter

section Keys

theorem Date.number_injective : Function.Injective Date.number := by
  intro d e h
  obtain ⟨year, month, day, hmonth, hday⟩ := d
  obtain ⟨year', month', day', hmonth', hday'⟩ := e
  simp only [Date.number] at h
  have hall : year = year' ∧ month = month' ∧ day = day' := by omega
  obtain ⟨rfl, rfl, rfl⟩ := hall
  rfl

theorem length_key (d : Date) :
    (nowLocalDateTimeKeyString d).length = (padded 4 d.year).length + 4 := by
  have hmonth := d.monthRange
  have hday := d.dayRange
  rw [nowLocalDateTimeKeyString, List.length_append, List.length_append,
    length_padded_two (by omega), length_padded_two (by omega)]

theorem nowLocalDateTimeKeyString_injective : Function.Injective nowLocalDateTimeKeyString := by
  intro d e h
  have hlength : (padded 4 d.year).length = (padded 4 e.year).length := by
    have htotal := congrArg List.length h
    rw [length_key, length_key] at htotal
    omega
  obtain ⟨hyear, hrest⟩ := List.append_inj h hlength
  have hmonths : (padded 2 d.month).length = (padded 2 e.month).length := by
    rw [length_padded_two (by have := d.monthRange; omega),
      length_padded_two (by have := e.monthRange; omega)]
  obtain ⟨hmonth, hday⟩ := List.append_inj hrest hmonths
  have hyear := padded_injective 4 hyear
  have hmonth := padded_injective 2 hmonth
  have hday := padded_injective 2 hday
  apply Date.number_injective
  rw [Date.number, Date.number, hyear, hmonth, hday]

theorem length_key_pos (d : Date) : 0 < (nowLocalDateTimeKeyString d).length := by
  rw [length_key]
  omega

theorem key_ne_nil (d : Date) : nowLocalDateTimeKeyString d ≠ [] :=
  List.ne_nil_of_length_pos (length_key_pos d)

theorem length_key_le {d e : Date} (h : d.number ≤ e.number) :
    (nowLocalDateTimeKeyString d).length ≤ (nowLocalDateTimeKeyString e).length := by
  have hyear : d.year ≤ e.year := by
    have hmonth := e.monthRange
    have hday := e.dayRange
    simp only [Date.number] at h
    omega
  have hlength := @length_padded_le 4 _ _ hyear
  rw [length_key, length_key]
  omega

theorem all_isDigit_key (d : Date) : (nowLocalDateTimeKeyString d).all isDigit = true := by
  rw [List.all_eq_true]
  intro byte h
  rcases List.mem_append.mp h with hyear | hrest
  · exact isDigit_of_mem_padded hyear
  · rcases List.mem_append.mp hrest with hmonth | hday
    · exact isDigit_of_mem_padded hmonth
    · exact isDigit_of_mem_padded hday

/-- The test of the date compares dates only when the key has ten characters. -/
theorem todayLocalDateString_eq_segmentDate {clock today : Date}
    (h : clock.number ≤ today.number) :
    todayLocalDateString today = segmentDate (nowLocalDateTimeKeyString clock) ↔
      (nowLocalDateTimeKeyString clock).length = 10 ∧ today = clock := by
  have hlength : (nowLocalDateTimeKeyString clock).length ≤ (todayLocalDateString today).length :=
    length_key_le h
  unfold segmentDate
  split
  case isTrue hlong =>
    constructor
    · intro heq
      have hten : (todayLocalDateString today).length = 10 := by
        rw [heq, List.length_take]
        omega
      have hkey : (nowLocalDateTimeKeyString clock).length = 10 := by omega
      rw [List.take_of_length_le (by omega)] at heq
      exact ⟨hkey, nowLocalDateTimeKeyString_injective heq⟩
    · rintro ⟨hkey, rfl⟩
      rw [List.take_of_length_le (by omega)]
      rfl
  case isFalse hshort =>
    constructor
    · intro heq
      exact absurd heq (key_ne_nil today)
    · rintro ⟨hkey, _⟩
      omega

theorem makeFilePath_inj {directory : CString} {d e : Date} {p q : Nat}
    (h : makeFilePath directory (nowLocalDateTimeKeyString d) p =
      makeFilePath directory (nowLocalDateTimeKeyString e) q) : d = e ∧ p = q := by
  have hname := List.append_cancel_left (List.append_cancel_left h)
  obtain ⟨hkey, hrest⟩ := append_underscore_inj (all_isDigit_key d) (all_isDigit_key e) hname
  exact ⟨nowLocalDateTimeKeyString_injective hkey,
    padded_injective 2 (List.append_cancel_right hrest)⟩

theorem scanInt_key (d : Date) : scanInt (nowLocalDateTimeKeyString d) = some [] := by
  have hdigits := all_isDigit_key d
  cases hkey : nowLocalDateTimeKeyString d with
  | nil => exact absurd hkey (key_ne_nil d)
  | cons byte rest =>
      rw [hkey] at hdigits
      have hfirst : isDigit byte = true := (List.all_eq_true.mp hdigits) byte List.mem_cons_self
      have hspace : isSpace byte = false := by
        simp only [isDigit, isSpace, Bool.and_eq_true, decide_eq_true_eq, UInt8.le_iff_toNat_le,
          Bool.or_eq_false_iff, beq_eq_false_iff_ne, ne_eq, Bool.and_eq_false_iff,
          decide_eq_false_iff_not, ← UInt8.toNat_inj] at hfirst ⊢
        simp only [UInt8.toNat_ofNat] at hfirst ⊢
        omega
      have hsigned : byte ≠ 0x2D ∧ byte ≠ 0x2B := by
        constructor
        · rintro rfl
          exact absurd hfirst (by decide)
        · rintro rfl
          exact absurd hfirst (by decide)
      have hall := List.all_eq_true.mp hdigits
      rw [scanInt, List.dropWhile_cons_of_neg (by rw [hspace]; decide)]
      split
      · next h => exact absurd (List.cons.inj h).1 hsigned.1
      · next h => exact absurd (List.cons.inj h).1 hsigned.2
      · rw [List.takeWhile_eq_self_iff.mpr hall, List.dropWhile_eq_nil_iff.mpr hall]
        rfl

/-- `ParseYmd` wants dashes, and `TodayLocalDateString` writes none. -/
theorem parsesYmd_today (today : Date) : parsesYmd (todayLocalDateString today) = false := by
  have hscan : scanInt (todayLocalDateString today) = some [] := scanInt_key today
  rw [parsesYmd, hscan, Bool.and_false]

theorem purgesExpiredLogs_eq_false (cfg : FileLogConfig) (today : Date) :
    purgesExpiredLogs cfg today = false := by
  rw [purgesExpiredLogs, parsesYmd_today, Bool.and_false]

end Keys

section Parts

theorem countLines_concat (messages : List CString) (payload : CString) :
    countLines (messages ++ [payload]) = countLines messages + countLinesInMessage payload := by
  rw [countLines, countLines, List.map_append, List.sum_append, List.map_singleton,
    List.sum_singleton]

theorem partsOf_concat_self (opened : List (Date × Nat)) (d : Date) (part : Nat) :
    partsOf (opened ++ [(d, part)]) d = partsOf opened d ++ [part] := by
  simp [partsOf]

theorem partsOf_concat_of_ne (opened : List (Date × Nat)) {c d : Date} (h : c ≠ d) (part : Nat) :
    partsOf (opened ++ [(c, part)]) d = partsOf opened d := by
  simp [partsOf, h]

def NextPart (parts : List Nat) (part : Nat) : Prop :=
  parts = [] ∧ part = 1 ∨ ∃ q, parts.getLast? = some q ∧ part = q + 1

theorem numbered_nil : Numbered [] := ⟨by simp, List.isChain_nil⟩

theorem Numbered.concat {parts : List Nat} (h : Numbered parts) {part : Nat}
    (hnext : NextPart parts part) : Numbered (parts ++ [part]) := by
  rcases hnext with ⟨rfl, rfl⟩ | ⟨q, hlast, hpart⟩
  · exact ⟨by simp, List.isChain_singleton 1⟩
  · have hne : parts ≠ [] := by
      rintro rfl
      simp at hlast
    refine ⟨?_, ?_⟩
    · rw [List.head?_append_of_ne_nil _ hne]
      exact h.first
    · refine List.isChain_append.mpr ⟨h.next, List.isChain_singleton part, ?_⟩
      intro p hp r hr
      rw [Option.mem_def, hlast, Option.some.injEq] at hp
      rw [List.head?_cons, Option.mem_def, Option.some.injEq] at hr
      rw [← hp, ← hr]
      exact hpart

end Parts

namespace FileLogWriter

/-- What holds of the files and the parts opened so far, whatever the current file is. -/
structure Kept (s : FileLogWriter) : Prop where
  named : ∀ f ∈ s.files, f.path = s.pathOf f.date f.part
  sorted : s.files.Pairwise fun f g =>
    f.date.number < g.date.number ∨ f.date = g.date ∧ f.part < g.part
  bounded : ∀ f ∈ s.files, (countLines f.messages.dropLast : Int) < s.cfg.maxLinesPerFile
  written : s.files.flatMap LogFile.messages = s.written
  numbered : ∀ d, Numbered (partsOf s.opened d)
  past : ∀ o ∈ s.opened, o.1.number ≤ s.clock.number
  keys : ∀ t ∈ s.keys, t.old ≠ [] → t.clock ≠ t.now

/-- The last file is the open one, and belongs to the current key and part. -/
structure Current (s : FileLogWriter) (front : List LogFile) (last : LogFile) : Prop
    extends Kept s where
  key : s.currentTimeKey = nowLocalDateTimeKeyString s.clock
  files : s.files = front ++ [last]
  file : s.file = some last.path
  date : last.date = s.clock
  part : last.part = s.partIndex
  openedLast : (partsOf s.opened s.clock).getLast? = some s.partIndex

theorem Kept.opens {s : FileLogWriter} (h : s.Kept)
    (hnext : NextPart (partsOf s.opened s.clock) s.partIndex) :
    (∀ d, Numbered (partsOf s.openNewFile.opened d)) ∧
      (∀ o ∈ s.openNewFile.opened, o.1.number ≤ s.clock.number) ∧
      (partsOf s.openNewFile.opened s.clock).getLast? = some s.partIndex := by
  refine ⟨?_, ?_, ?_⟩
  · intro d
    by_cases hd : s.clock = d
    · subst hd
      change Numbered (partsOf (s.opened ++ [(s.clock, s.partIndex)]) s.clock)
      rw [partsOf_concat_self]
      exact (h.numbered _).concat hnext
    · change Numbered (partsOf (s.opened ++ [(s.clock, s.partIndex)]) d)
      rw [partsOf_concat_of_ne _ hd]
      exact h.numbered d
  · intro o ho
    rcases List.mem_append.mp ho with hold | hnew
    · exact h.past o hold
    · rw [List.mem_singleton.mp hnew]
  · change (partsOf (s.opened ++ [(s.clock, s.partIndex)]) s.clock).getLast? = _
    rw [partsOf_concat_self, List.getLast?_concat]

theorem Kept.openNewFile {s : FileLogWriter} (h : s.Kept) (hmax : 1 ≤ s.cfg.maxLinesPerFile)
    (hkey : s.currentTimeKey = nowLocalDateTimeKeyString s.clock)
    (hafter : ∀ f ∈ s.files,
      f.date.number < s.clock.number ∨ f.date = s.clock ∧ f.part < s.partIndex)
    (hnext : NextPart (partsOf s.opened s.clock) s.partIndex) :
    s.openNewFile.Current s.files ⟨s.pathOf s.clock s.partIndex, s.clock, s.partIndex, []⟩ := by
  have hpath : makeFilePath s.cfg.directory s.currentTimeKey s.partIndex =
      s.pathOf s.clock s.partIndex := by rw [hkey]; rfl
  have hnone : s.files.any (·.path == s.pathOf s.clock s.partIndex) = false := by
    rw [List.any_eq_false]
    intro f hf
    rw [beq_iff_eq, h.named f hf]
    intro hsame
    obtain ⟨hdate, hpart⟩ := makeFilePath_inj hsame
    rcases hafter f hf with hlt | ⟨_, hlt⟩
    · rw [hdate] at hlt
      exact lt_irrefl _ hlt
    · omega
  have hfiles : s.openNewFile.files =
      s.files ++ [⟨s.pathOf s.clock s.partIndex, s.clock, s.partIndex, []⟩] := by
    simp only [FileLogWriter.openNewFile, hpath, hnone, Bool.false_eq_true, if_false]
  obtain ⟨hnumbered, hpast, hlast⟩ := h.opens hnext
  refine
    { named := ?_, sorted := ?_, bounded := ?_, written := ?_
      numbered := hnumbered, past := hpast, keys := h.keys, key := hkey
      files := hfiles, file := congrArg some hpath, date := rfl, part := rfl
      openedLast := hlast }
  · intro f hf
    rw [hfiles] at hf
    rcases List.mem_append.mp hf with hold | hnew
    · exact h.named f hold
    · rw [List.mem_singleton.mp hnew]
      rfl
  · rw [hfiles, List.pairwise_append]
    refine ⟨h.sorted, List.pairwise_singleton _ _, ?_⟩
    intro f hf g hg
    rw [List.mem_singleton.mp hg]
    exact hafter f hf
  · intro f hf
    rw [hfiles] at hf
    rcases List.mem_append.mp hf with hold | hnew
    · exact h.bounded f hold
    · rw [List.mem_singleton.mp hnew]
      exact Int.lt_of_lt_of_le Int.zero_lt_one hmax
  · rw [hfiles, List.flatMap_append, h.written]
    exact List.append_nil s.written

theorem Current.path_ne {s : FileLogWriter} {front : List LogFile} {last : LogFile}
    (h : s.Current front last) {f : LogFile} (hf : f ∈ front) : last.path ≠ f.path := by
  intro hsame
  have hsorted := h.sorted
  have hnamed := h.named
  rw [h.files] at hsorted hnamed
  rw [hnamed f (List.mem_append_left _ hf),
    hnamed last (List.mem_append_right _ (List.mem_singleton_self last))] at hsame
  obtain ⟨hdate, hpart⟩ := makeFilePath_inj hsame
  rcases (List.pairwise_append.mp hsorted).2.2 f hf last (List.mem_singleton_self last) with
    hlt | ⟨_, hlt⟩
  · rw [hdate] at hlt
    exact lt_irrefl _ hlt
  · omega

theorem Current.fwrite {s : FileLogWriter} {front : List LogFile} {last : LogFile}
    (h : s.Current front last) (hroom : (countLines last.messages : Int) < s.cfg.maxLinesPerFile)
    (payload : CString) :
    Current (FileLogWriter.fwrite { s with written := s.written ++ [payload] } payload) front
      { last with messages := last.messages ++ [payload] } := by
  have hfiles : (FileLogWriter.fwrite
      { s with written := s.written ++ [payload] } payload).files =
      front ++ [{ last with messages := last.messages ++ [payload] }] := by
    change s.files.map _ = _
    rw [h.files, List.map_append, List.map_singleton]
    congr 1
    · conv_rhs => rw [← List.map_id front]
      apply List.map_congr_left
      intro f hf
      rw [h.file, if_neg (fun hsame => h.path_ne hf (Option.some.inj hsame))]
      rfl
    · rw [if_pos h.file]
  have hlast : last ∈ s.files := by
    rw [h.files]
    exact List.mem_append_right _ (List.mem_singleton_self last)
  have hfront : ∀ f ∈ front, f ∈ s.files := by
    intro f hf
    rw [h.files]
    exact List.mem_append_left _ hf
  refine
    { named := ?_, sorted := ?_, bounded := ?_, written := ?_
      numbered := h.numbered, past := h.past, keys := h.keys, key := h.key
      files := hfiles, file := h.file, date := h.date, part := h.part
      openedLast := h.openedLast }
  · intro f hf
    rw [hfiles] at hf
    rcases List.mem_append.mp hf with hold | hnew
    · exact h.named f (hfront f hold)
    · rw [List.mem_singleton.mp hnew]
      exact h.named last hlast
  · have hsorted := h.sorted
    rw [h.files, List.pairwise_append] at hsorted
    rw [hfiles, List.pairwise_append]
    refine ⟨hsorted.1, List.pairwise_singleton _ _, ?_⟩
    intro f hf g hg
    rw [List.mem_singleton.mp hg]
    exact hsorted.2.2 f hf last (List.mem_singleton_self last)
  · intro f hf
    rw [hfiles] at hf
    rcases List.mem_append.mp hf with hold | hnew
    · exact h.bounded f (hfront f hold)
    · rw [List.mem_singleton.mp hnew, List.dropLast_concat]
      exact hroom
  · have hwritten := h.written
    rw [h.files, List.flatMap_append, List.flatMap_singleton] at hwritten
    rw [hfiles, List.flatMap_append, List.flatMap_singleton, ← List.append_assoc, hwritten]
    rfl

/-- The open file has all the lines that are counted, and less than the maximum. -/
structure Ready (s : FileLogWriter) (front : List LogFile) (last : LogFile) : Prop
    extends Current s front last where
  counted : s.linesInCurrentFile = countLines last.messages
  room : (countLines last.messages : Int) < s.cfg.maxLinesPerFile

theorem Kept.setPart {s : FileLogWriter} (h : s.Kept) (file : Option CString)
    (partIndex linesInCurrentFile : Nat) :
    Kept { s with file, partIndex, linesInCurrentFile } :=
  ⟨h.named, h.sorted, h.bounded, h.written, h.numbered, h.past, h.keys⟩

theorem Kept.takeKey {s : FileLogWriter} (h : s.Kept) {now : Date}
    (hle : s.clock.number ≤ now.number) (hday : s.currentTimeKey ≠ [] → s.clock ≠ now) :
    (s.takeKey now).Kept where
  named := h.named
  sorted := h.sorted
  bounded := h.bounded
  written := h.written
  numbered := h.numbered
  past o ho := Nat.le_trans (h.past o ho) hle
  keys := by
    intro t ht
    rcases List.mem_append.mp ht with hbefore | hnew
    · exact h.keys t hbefore
    · rw [List.mem_singleton.mp hnew]
      exact hday

theorem Current.setLines {s : FileLogWriter} {front : List LogFile} {last : LogFile}
    (h : s.Current front last) (linesInCurrentFile : Nat) :
    Current { s with linesInCurrentFile } front last :=
  { h.toKept.setPart s.file s.partIndex linesInCurrentFile with
    key := h.key, files := h.files, file := h.file, date := h.date, part := h.part
    openedLast := h.openedLast }

theorem Current.before_or_last {s : FileLogWriter} {front : List LogFile} {last : LogFile}
    (h : s.Current front last) {f : LogFile} (hf : f ∈ s.files) :
    f.date.number < s.clock.number ∨ f.date = s.clock ∧ f.part ≤ s.partIndex := by
  have hsorted := h.sorted
  rw [h.files] at hsorted hf
  rw [← h.date, ← h.part]
  rcases List.mem_append.mp hf with hfront | hlast
  · refine ((List.pairwise_append.mp hsorted).2.2 f hfront last
      (List.mem_singleton_self last)).imp_right ?_
    exact fun hsame => ⟨hsame.1, Nat.le_of_lt hsame.2⟩
  · rw [List.mem_singleton.mp hlast]
    exact .inr ⟨rfl, Nat.le_refl _⟩

theorem Current.nextPart {s : FileLogWriter} {front : List LogFile} {last : LogFile}
    (h : s.Current front last) (hmax : 1 ≤ s.cfg.maxLinesPerFile) (linesInCurrentFile : Nat) :
    Current (FileLogWriter.openNewFile
        { s with linesInCurrentFile, partIndex := s.partIndex + 1 }) s.files
      ⟨s.pathOf s.clock (s.partIndex + 1), s.clock, s.partIndex + 1, []⟩ := by
  have hkept := h.toKept.setPart s.file (s.partIndex + 1) linesInCurrentFile
  refine hkept.openNewFile hmax h.key ?_ (.inr ⟨s.partIndex, h.openedLast, rfl⟩)
  intro f hf
  exact (h.before_or_last hf).imp_right fun hsame => ⟨hsame.1, Nat.lt_succ_of_le hsame.2⟩

/-- After a message the next part is opened if the current file is full. -/
theorem Current.rotates {s : FileLogWriter} {front : List LogFile} {last : LogFile}
    (h : s.Current front last) (hmax : 1 ≤ s.cfg.maxLinesPerFile) {linesAdded : Nat}
    (hcounted : s.linesInCurrentFile + linesAdded = countLines last.messages) :
    ∃ front' last', (s.maybeRotateByLines linesAdded).Ready front' last' := by
  have hopen : s.file ≠ none := by
    rw [h.file]
    exact Option.some_ne_none _
  rw [maybeRotateByLines, if_neg hopen]
  dsimp only
  split
  case isTrue hbelow =>
    rw [hcounted] at hbelow
    exact ⟨front, last, { h.setLines _ with counted := hcounted, room := hbelow }⟩
  case isFalse =>
    exact ⟨_, _, { h.nextPart hmax _ with
      counted := rfl
      room := Int.lt_of_lt_of_le Int.zero_lt_one hmax }⟩

/-- The message goes to the current file. -/
theorem Ready.writes {s : FileLogWriter} {front : List LogFile} {last : LogFile}
    (h : s.Ready front last) (hmax : 1 ≤ s.cfg.maxLinesPerFile) (payload : CString) :
    let t := FileLogWriter.fwrite { s with written := s.written ++ [payload] } payload
    ∃ front' last', Ready (if 0 < countLinesInMessage payload
      then t.maybeRotateByLines (countLinesInMessage payload) else t) front' last' := by
  intro t
  have hcurrent : t.Current front { last with messages := last.messages ++ [payload] } :=
    h.toCurrent.fwrite h.room payload
  have hlines := countLines_concat last.messages payload
  have hcounted : t.linesInCurrentFile = countLines last.messages := h.counted
  split
  case isTrue =>
    refine hcurrent.rotates hmax ?_
    dsimp only
    rw [hcounted, hlines]
  case isFalse hnone =>
    have hsame : countLines (last.messages ++ [payload]) = countLines last.messages := by omega
    refine ⟨front, _, { hcurrent with counted := ?_, room := ?_ }⟩
    · dsimp only
      rw [hsame]
      exact hcounted
    · dsimp only
      rw [hsame]
      exact h.room

structure Unused (s : FileLogWriter) : Prop where
  key : s.currentTimeKey = []
  files : s.files = []
  opened : s.opened = []
  keys : s.keys = []
  written : s.written = []
  part : s.partIndex = 1

theorem Unused.kept {s : FileLogWriter} (h : s.Unused) : s.Kept where
  named := by simp [h.files]
  sorted := by simp [h.files]
  bounded := by simp [h.files]
  written := by rw [h.files, h.written]; rfl
  numbered d := by rw [h.opened]; exact numbered_nil
  past := by simp [h.opened]
  keys := by simp [h.keys]

theorem Kept.openFirst {s : FileLogWriter} (h : s.Kept) (hmax : 1 ≤ s.cfg.maxLinesPerFile)
    (hkey : s.currentTimeKey = nowLocalDateTimeKeyString s.clock) (hpart : s.partIndex = 1)
    (hfiles : ∀ f ∈ s.files, f.date.number < s.clock.number)
    (hopened : ∀ o ∈ s.opened, o.1.number < s.clock.number) :
    ∃ front last, s.openNewFile.Ready front last := by
  have hparts : partsOf s.opened s.clock = [] := by
    rw [partsOf, List.map_eq_nil_iff, List.filter_eq_nil_iff]
    intro o ho
    rw [decide_eq_true_eq]
    intro hsame
    exact absurd (hopened o ho) (by rw [hsame]; exact lt_irrefl _)
  have hcurrent := h.openNewFile hmax hkey (fun f hf => .inl (hfiles f hf)) (.inl ⟨hparts, hpart⟩)
  exact ⟨_, _, { hcurrent with
    counted := rfl
    room := Int.lt_of_lt_of_le Int.zero_lt_one hmax }⟩

theorem Unused.maybeRotateByDate {s : FileLogWriter} (h : s.Unused)
    (hmax : 1 ≤ s.cfg.maxLinesPerFile) {today now : Date} (hle : s.clock.number ≤ now.number) :
    ∃ front last, (s.maybeRotateByDate today now).Ready front last := by
  rw [FileLogWriter.maybeRotateByDate, if_pos h.key]
  refine (h.kept.takeKey hle (absurd h.key)).openFirst hmax rfl h.part ?_ ?_
  · intro f (hf : f ∈ s.files)
    rw [h.files] at hf
    exact absurd hf List.not_mem_nil
  · intro o (ho : o ∈ s.opened)
    rw [h.opened] at ho
    exact absurd ho List.not_mem_nil

theorem Ready.maybeRotateByDate {s : FileLogWriter} {front : List LogFile} {last : LogFile}
    (h : s.Ready front last) (hmax : 1 ≤ s.cfg.maxLinesPerFile) {m : Message}
    (horder : s.InOrder m)
    (htested : nowLocalDateTimeKeyString m.now = s.currentTimeKey →
      s.currentTimeKey.length = 10) :
    ∃ front' last', (s.maybeRotateByDate m.today m.now).Ready front' last' := by
  have hkeyed : s.currentTimeKey ≠ [] := by
    rw [h.key]
    exact key_ne_nil _
  have htest := todayLocalDateString_eq_segmentDate horder.1
  rw [← h.key] at htest
  rw [FileLogWriter.maybeRotateByDate, if_neg hkeyed]
  split
  case isTrue hsegment =>
    rw [(htest.mp hsegment).2]
    exact ⟨front, last, h⟩
  case isFalse hsegment =>
    -- on the date of the key the test would have compared equal
    have hday : m.now ≠ s.clock := by
      intro hday
      have hbetween := horder.2
      rw [hday] at hbetween
      have htoday : m.today = s.clock :=
        Date.number_injective (Nat.le_antisymm hbetween horder.1)
      exact hsegment (htest.mpr ⟨htested (by rw [hday, h.key]), htoday⟩)
    have hlater : s.clock.number < m.now.number := by
      apply lt_of_le_of_ne (horder.1.trans horder.2)
      exact fun hsame => hday (Date.number_injective hsame).symm
    have hkept := h.toKept.takeKey (Nat.le_of_lt hlater) fun _ => Ne.symm hday
    refine (hkept.setPart none 1 s.linesInCurrentFile).openFirst hmax rfl rfl ?_ ?_
    · intro f hf
      rcases h.before_or_last hf with hlt | ⟨hdate, _⟩
      · exact Nat.lt_trans hlt hlater
      · rw [hdate]
        exact hlater
    · intro o ho
      exact Nat.lt_of_le_of_lt (h.past o ho) hlater

theorem maybeRotateByDate_cfg (s : FileLogWriter) (today now : Date) :
    (s.maybeRotateByDate today now).cfg = s.cfg := by
  unfold FileLogWriter.maybeRotateByDate
  split_ifs
  · rfl
  · rfl
  · rfl

theorem maybeRotateByLines_cfg (s : FileLogWriter) (linesAdded : Nat) :
    (s.maybeRotateByLines linesAdded).cfg = s.cfg := by
  unfold FileLogWriter.maybeRotateByLines
  dsimp only
  split_ifs
  · rfl
  · rfl
  · rfl

theorem maybeRotateByLines_keys (s : FileLogWriter) (linesAdded : Nat) :
    (s.maybeRotateByLines linesAdded).keys = s.keys := by
  unfold FileLogWriter.maybeRotateByLines
  dsimp only
  split_ifs
  · rfl
  · rfl
  · rfl

theorem writePayload_of_open {s : FileLogWriter} {m : Message} (henabled : s.cfg.enabled = true)
    (hopen : (s.maybeRotateByDate m.today m.now).file ≠ none) :
    s.writePayload m =
      let s := s.maybeRotateByDate m.today m.now
      let t := FileLogWriter.fwrite { s with written := s.written ++ [m.payload] } m.payload
      if 0 < countLinesInMessage m.payload
        then t.maybeRotateByLines (countLinesInMessage m.payload) else t := by
  have hon : ¬ s.cfg.enabled = false := by simp [henabled]
  have hensure : s.ensureCurrentFile m.today m.now = s.maybeRotateByDate m.today m.now := by
    rw [ensureCurrentFile, if_neg hon]
    exact if_pos hopen
  rw [FileLogWriter.writePayload, if_neg hon, hensure]
  exact if_neg hopen

structure Invariant (s : FileLogWriter) : Prop where
  max : 1 ≤ s.cfg.maxLinesPerFile
  state : s.Unused ∨ ∃ front last, s.Ready front last

theorem invariant_configure (cfg : FileLogConfig) (clock : Date) :
    (configure cfg clock).Invariant where
  max := by
    simp only [configure]
    split
    · exact Int.le_refl 1
    · omega
  state := .inl ⟨rfl, rfl, rfl, rfl, rfl, rfl⟩

theorem Invariant.writePayload {s : FileLogWriter} (h : s.Invariant) {m : Message}
    (henabled : s.cfg.enabled = true) (horder : s.InOrder m) (htested : s.DateTested m) :
    (s.writePayload m).Invariant := by
  have hready : ∃ front last, (s.maybeRotateByDate m.today m.now).Ready front last := by
    rcases h.state with hunused | ⟨front, last, hready⟩
    · exact hunused.maybeRotateByDate h.max (horder.1.trans horder.2)
    · exact hready.maybeRotateByDate h.max horder (htested henabled horder)
  obtain ⟨front, last, hready⟩ := hready
  have hfile : (s.maybeRotateByDate m.today m.now).file ≠ none := by
    rw [hready.file]
    exact Option.some_ne_none _
  have hmax : 1 ≤ (s.maybeRotateByDate m.today m.now).cfg.maxLinesPerFile := by
    rw [maybeRotateByDate_cfg]
    exact h.max
  rw [writePayload_of_open henabled hfile]
  refine ⟨?_, .inr (hready.writes hmax m.payload)⟩
  dsimp only
  split
  · rw [maybeRotateByLines_cfg]
    exact hmax
  · exact hmax

theorem Invariant.step {s : FileLogWriter} (h : s.Invariant) {m : Message}
    (htested : s.DateTested m) : (s.step m).Invariant := by
  unfold FileLogWriter.step
  split
  case isTrue horder =>
    by_cases henabled : s.cfg.enabled = true
    · exact h.writePayload henabled horder htested
    · rw [FileLogWriter.writePayload, if_pos (by simpa using henabled)]
      exact h
  case isFalse => exact h

theorem Kept.rotates {s : FileLogWriter} (h : s.Kept) : s.Rotates where
  bounded := h.bounded
  numbered := h.numbered
  keys := h.keys
  ordered := by
    have hsorted : s.files.Pairwise fun f g => LogFile.before f g = true := by
      apply h.sorted.imp
      rintro f g (hdate | ⟨hdate, hpart⟩)
      · simp [LogFile.before, hdate]
      · simp [LogFile.before, hdate, Nat.le_of_lt hpart]
    rw [List.mergeSort_of_pairwise hsorted, ← h.written, List.flatten_eq_flatMap,
      List.flatMap_assoc]
    apply List.flatMap_congr
    intro f _
    rw [LogFile.content, List.flatten_eq_flatMap]

theorem Invariant.rotates {s : FileLogWriter} (h : s.Invariant) : s.Rotates := by
  rcases h.state with hunused | ⟨front, last, hready⟩
  · exact hunused.kept.rotates
  · exact hready.toKept.rotates

/-- The key is taken again on its own date. -/
theorem Invariant.not_rotates {s : FileLogWriter} (h : s.Invariant) {m : Message}
    (hnot : ¬ s.DateTested m) : ¬ (s.step m).Rotates := by
  simp only [DateTested, not_forall] at hnot
  obtain ⟨henabled, horder, hkey, hother⟩ := hnot
  have hkeyed : s.currentTimeKey ≠ [] := by
    rw [← hkey]
    exact key_ne_nil _
  obtain ⟨front, last, hready⟩ := h.state.resolve_left fun hunused => hkeyed hunused.key
  have hday : m.now = s.clock := nowLocalDateTimeKeyString_injective (hkey.trans hready.key)
  have hsegment : todayLocalDateString m.today ≠ segmentDate s.currentTimeKey := by
    rw [hready.key] at hother ⊢
    exact fun heq => hother ((todayLocalDateString_eq_segmentDate horder.1).mp heq).1
  have hdate : s.maybeRotateByDate m.today m.now =
      openNewFile { s.takeKey m.now with file := none, partIndex := 1 } := by
    rw [maybeRotateByDate, if_neg hkeyed, if_neg hsegment]
  have hopen : (s.maybeRotateByDate m.today m.now).file ≠ none := by
    rw [hdate]
    exact Option.some_ne_none _
  have hkeys : (s.step m).keys = s.keys ++ [⟨s.currentTimeKey, s.clock, m.now⟩] := by
    rw [FileLogWriter.step, if_pos horder, writePayload_of_open henabled hopen, hdate]
    dsimp only
    split
    · exact maybeRotateByLines_keys _ _
    · rfl
  intro hrotates
  refine hrotates.keys ⟨s.currentTimeKey, s.clock, m.now⟩ ?_ hkeyed hday.symm
  rw [hkeys]
  exact List.mem_append_right _ List.mem_cons_self

end FileLogWriter

open FileLogWriter

/-- The log is rotated as it should be throughout a run exactly when no message arrives on the
date of a key that the test of the date does not compare. -/
theorem throughout_rotates_iff (cfg : FileLogConfig) (clock : Date) (messages : List Message) :
    Throughout FileLogWriter.step Rotates (configure cfg clock) messages ↔
      Admitted FileLogWriter.step DateTested (configure cfg clock) messages := by
  have hstart := invariant_configure cfg clock
  have hiff : ∀ (s : FileLogWriter) (m : Message), s.Invariant → s.Rotates →
      ((s.step m).Rotates ↔ s.DateTested m) := by
    intro s m h _
    refine ⟨fun hrotates => ?_, fun htested => (h.step htested).rotates⟩
    by_contra hnot
    exact h.not_rotates hnot hrotates
  exact throughout_iff_admitted hstart.rotates hstart hiff
    fun s m h hrotates hnext => h.step ((hiff s m h hrotates).mp hnext)

/-- Two messages on one day, with one line a file: the second goes to the first file again,
which has its line already. -/
theorem not_rotates_sameDay :
    ¬ ∀ (cfg : FileLogConfig) (clock : Date) (messages : List Message),
      Throughout FileLogWriter.step Rotates (configure cfg clock) messages := by
  intro hall
  let day : Date := ⟨2026, 1, 2, by decide, by decide⟩
  have hlast := hall ⟨true, [0x6C], 1, 7⟩ day [⟨[0x61], day, day⟩, ⟨[0x62], day, day⟩]
    [⟨[0x61], day, day⟩, ⟨[0x62], day, day⟩] [] (List.append_nil _).symm
  exact absurd hlast.bounded (by decide +kernel)

end GBServer.LogRotation
