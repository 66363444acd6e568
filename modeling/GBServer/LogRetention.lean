import Mathlib.Logic.Function.Iterate
import GBServer.LogRotation

namespace GBServer.LogRetention

open Foundation.CStrings
open GBServer.LogRotation

structure DirEntry where
  name : CString
  regular : Bool
  deriving DecidableEq, Repr

/-- `mktime` on the midnight of a year, month and day, where the day need not be in the
month. There is no result where it returns -1. -/
abbrev Mktime := Int → Int → Int → Option Int

/-- What `sscanf` reads when `parsesYmd` says that it reads three numbers. -/
def parseYmd (s : CString) : Option (Int × Int × Int) :=
  if s.length ≠ 10 then none
  else
    match scanInt s with
    | some (0x2D :: month) =>
        match scanInt month with
        | some (0x2D :: day) =>
            if (scanInt day).isSome then some (atoi s, atoi month, atoi day) else none
        | _ => none
    | _ => none

def namePrefix : CString := ascii "gbmedia_server_"

def nameSuffix : CString := ascii ".log"

def minOld : Nat := namePrefix.length + 10 + 1 + 2 + nameSuffix.length

section Purge

variable (mktime : Mktime)

/-- The loop of `PurgeExpiredLogsLocked` removes the file. -/
def removes (cutoff : Int) (f : DirEntry) : Bool :=
  f.regular && !decide (f.name.length < minOld) && namePrefix.isPrefixOf f.name &&
    nameSuffix.isSuffixOf f.name &&
    match parseYmd ((f.name.drop namePrefix.length).take 10) with
    | none => false
    | some (year, month, day) =>
        match mktime year month day with
        | none => false
        | some fileMidnight => decide (fileMidnight < cutoff)

def purgeExpiredLogs (retentionDays : Int) (today : Date) (directory : List DirEntry) :
    List DirEntry :=
  if retentionDays ≤ 0 then directory
  else
    match parseYmd (todayLocalDateString today) with
    | none => directory
    | some (year, month, day) =>
        match mktime year month (day - retentionDays) with
        | none => directory
        | some cutoff => directory.filter fun f => !removes mktime cutoff f

/-- The directory when `MaybeRotateByDateLocked` has compared the date with that of the key,
and purged if it is another. `purged` is the date that the purge finds. -/
def purgeByDate (s : FileLogWriter) (today purged : Date) (directory : List DirEntry) :
    List DirEntry :=
  if s.currentTimeKey ≠ [] ∧ todayLocalDateString today = segmentDate s.currentTimeKey then
    directory
  else purgeExpiredLogs mktime s.cfg.retentionDays purged directory

end Purge

/-- The name that `MakeFilePathLocked` puts behind the directory. -/
def logFileName (d : Date) (part : Nat) : CString :=
  namePrefix ++ (nowLocalDateTimeKeyString d ++ (0x5F :: (padded 2 part ++ nameSuffix)))

def Date.daysInMonth (d : Date) : Nat :=
  match d.month with
  | 2 => if d.year % 4 = 0 ∧ (d.year % 100 ≠ 0 ∨ d.year % 400 = 0) then 29 else 28
  | 4 | 6 | 9 | 11 => 30
  | _ => 31

theorem Date.daysInMonth_le (d : Date) : Date.daysInMonth d ≤ 31 := by
  unfold Date.daysInMonth
  split
  · split <;> omega
  · omega
  · omega
  · omega
  · omega
  · omega

def Date.next (d : Date) : Date :=
  if hday : d.day < Date.daysInMonth d then
    { d with
      day := d.day + 1
      dayRange := by
        have hle := Date.daysInMonth_le d
        omega }
  else if hmonth : d.month < 12 then
    { year := d.year, month := d.month + 1, day := 1
      monthRange := by omega, dayRange := by omega }
  else
    { year := d.year + 1, month := 1, day := 1
      monthRange := by omega, dayRange := by omega }

/-- Over the end of a year, and of February in a leap year. -/
example :
    Date.next ⟨2023, 12, 31, by decide, by decide⟩ = ⟨2024, 1, 1, by decide, by decide⟩ ∧
      Date.next^[2] ⟨2024, 2, 28, by decide, by decide⟩ = ⟨2024, 3, 1, by decide, by decide⟩ := by
  decide

/-- A file with a name that was made on a date more than `retentionDays` before `today`. -/
def Expired (retentionDays : Int) (today : Date) (f : DirEntry) : Prop :=
  f.regular = true ∧ ∃ d part age, f.name = logFileName d part ∧ d.day ≤ Date.daysInMonth d ∧
    retentionDays < (age : Nat) ∧ Date.next^[age] d = today

structure Retained (retentionDays : Int) (today : Date) (before after : List DirEntry) :
    Prop where
  removed : ∀ f ∈ after, ¬ Expired retentionDays today f
  kept : ∀ f ∈ before, ¬ Expired retentionDays today f → f ∈ after

section Names

theorem parseYmd_isSome (s : CString) : (parseYmd s).isSome = parsesYmd s := by
  unfold parseYmd parsesYmd
  grind

theorem parseYmd_today (today : Date) : parseYmd (todayLocalDateString today) = none := by
  have hnone := (parseYmd_isSome (todayLocalDateString today)).trans (parsesYmd_today today)
  exact Option.not_isSome_iff_eq_none.mp (Bool.eq_false_iff.mp hnone)

end Names

theorem purgeExpiredLogs_eq_self (mktime : Mktime) (retentionDays : Int) (today : Date)
    (directory : List DirEntry) :
    purgeExpiredLogs mktime retentionDays today directory = directory := by
  unfold purgeExpiredLogs
  split
  · rfl
  · rw [parseYmd_today]

theorem purgeByDate_eq_self (mktime : Mktime) (s : FileLogWriter) (today purged : Date)
    (directory : List DirEntry) : purgeByDate mktime s today purged directory = directory := by
  unfold purgeByDate
  split
  · rfl
  · exact purgeExpiredLogs_eq_self mktime s.cfg.retentionDays purged directory

/-- The purge leaves the directory as it should be exactly when nothing in it has expired. -/
theorem retained_iff (mktime : Mktime) (s : FileLogWriter) (today purged : Date)
    (directory : List DirEntry) :
    Retained s.cfg.retentionDays purged directory
        (purgeByDate mktime s today purged directory) ↔
      ∀ f ∈ directory, ¬ Expired s.cfg.retentionDays purged f := by
  rw [purgeByDate_eq_self]
  constructor
  · intro h
    exact h.removed
  · intro h
    exact ⟨h, fun f hf _ => hf⟩

/-- A file of the day before yesterday, with a retention of one day, in a new process. -/
theorem not_retained_dayBeforeYesterday :
    ¬ ∃ mktime : Mktime, ∀ (s : FileLogWriter) (today purged : Date) (directory : List DirEntry),
      0 < s.cfg.retentionDays → s.currentTimeKey = [] →
        Retained s.cfg.retentionDays purged directory
          (purgeByDate mktime s today purged directory) := by
  rintro ⟨mktime, hall⟩
  let day : Date := ⟨2026, 3, 1, by decide, by decide⟩
  let old : DirEntry := ⟨logFileName ⟨2026, 2, 27, by decide, by decide⟩ 1, true⟩
  have hretained := hall (FileLogWriter.configure ⟨true, ascii "logs", 1000, 1⟩ day) day day [old]
    (by decide) rfl
  rw [purgeByDate_eq_self] at hretained
  refine hretained.removed old List.mem_cons_self ⟨rfl, ⟨2026, 2, 27, by decide, by decide⟩, 1, 2,
    rfl, by decide, by decide, by decide⟩

end GBServer.LogRetention
