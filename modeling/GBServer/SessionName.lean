import GBServer.Foundation.CStrings

namespace GBServer.SessionName

open Foundation.CStrings

def slash : UInt8 := 0x2F

def dot : UInt8 := 0x2E

/-- `string_utils::split(source, '/', &list)`. -/
def split (source : CString) : List CString := source.splitOn slash

/-- The last two fields of a URL of five or six fields; a longer one gives two empty
strings.  The domain is not used. -/
def getSessionNameFromUrl (url : CString) : CString :=
  let list := split url
  if list.length < 5 then []
  else
    let (app, stream) : CString × CString :=
      match list with
      | [_, _, _, app, stream] => (app, stream)
      | [_, _, _, _, app, stream] => (app, stream)
      | _ => ([], [])
    app ++ slash :: stream

def gb28181Url (streamId : CString) : CString :=
  ascii "gb28181://chensong.com/live/" ++ streamId

/-- `"http://chensong.com"` in front of the path without its extension. -/
def flvUrl (path : CString) : CString :=
  if dot ∈ path then
    ascii "http://chensong.com" ++ ((path.reverse.dropWhile (· ≠ dot)).drop 1).reverse
  else path

theorem length_split_append (front back : CString) :
    (split (front ++ slash :: back)).length = (split front).length + (split back).length := by
  rw [split, List.splitOn_append_cons_self, List.length_append]
  rfl

theorem length_split_pos (source : CString) : 0 < (split source).length :=
  List.length_pos_of_ne_nil (List.splitOn_ne_nil slash source)

/-- A name without a slash comes from a URL of fewer than five fields, and only from
one. -/
theorem length_split_getSessionNameFromUrl_lt {url : CString} :
    (split (getSessionNameFromUrl url)).length < 2 ↔ (split url).length < 5 := by
  rw [getSessionNameFromUrl]
  constructor
  · intro h
    by_contra hurl
    rw [if_neg hurl] at h
    dsimp only at h
    split at h <;> rw [length_split_append] at h
    all_goals
      have happ := length_split_pos
      grind
  · intro h
    rw [if_pos h]
    decide

theorem length_split_gb28181Url (streamId : CString) :
    5 ≤ (split (gb28181Url streamId)).length := by
  have hurl : gb28181Url streamId =
      ascii "gb28181:" ++ slash :: (ascii "" ++ slash :: (ascii "chensong.com" ++
        slash :: (ascii "live" ++ slash :: streamId))) := by
    rfl
  have hpos := length_split_pos
  have h₁ := hpos (ascii "gb28181:")
  have h₂ := hpos (ascii "")
  have h₃ := hpos (ascii "chensong.com")
  have h₄ := hpos (ascii "live")
  have h₅ := hpos streamId
  rw [hurl, length_split_append, length_split_append, length_split_append, length_split_append]
  omega

example : getSessionNameFromUrl (ascii "webrtc://chensong.com:9091/live/test") =
    ascii "live/test" := by
  decide

end GBServer.SessionName
