import GBServer.Foundation.BlockHash
import Mathlib.Algebra.Group.Nat.Defs
import Mathlib.Data.Vector.Basic

/-!
The MD5 of `MD5.c`.  `UINT4` is `unsigned long int` there, so its width `w` is the
platform's.
-/

namespace GBServer.Md5

open Foundation.BlockHash

variable {w : ℕ}

/-- The four words of `state`. -/
@[ext]
structure Registers (w : ℕ) where
  a : BitVec w
  b : BitVec w
  c : BitVec w
  d : BitVec w
  deriving DecidableEq, Repr

/-- `MD5_CTX`. -/
structure Context (w : ℕ) where
  state : Registers w
  count0 : BitVec w
  count1 : BitVec w
  buffer : Vector UInt8 64
  deriving Repr

def initialState (w : ℕ) : Registers w where
  a := BitVec.ofNat w 0x67452301
  b := BitVec.ofNat w 0xefcdab89
  c := BitVec.ofNat w 0x98badcfe
  d := BitVec.ofNat w 0x10325476

/-- `MD5Init`, which leaves the buffer as it finds it. -/
def md5Init (buffer : Vector UInt8 64) : Context w where
  state := initialState w
  count0 := 0#w
  count1 := 0#w
  buffer := buffer

def f (x y z : BitVec w) : BitVec w := (x &&& y) ||| (~~~x &&& z)
def g (x y z : BitVec w) : BitVec w := (x &&& z) ||| (y &&& ~~~z)
def h (x y z : BitVec w) : BitVec w := x ^^^ y ^^^ z
def i (x y z : BitVec w) : BitVec w := y ^^^ (x ||| ~~~z)

def rotateLeft (x : BitVec w) (n : ℕ) : BitVec w := (x <<< n) ||| (x >>> (32 - n))

/-- One call of `FF`, `GG`, `HH` or `II`.  The next call names the registers one place
further, so that the changed one comes second there. -/
def round (mix : BitVec w → BitVec w → BitVec w → BitVec w) (x : List (BitVec w))
    (r : Registers w) (call : ℕ × ℕ × ℕ) : Registers w :=
  let a := r.a + (mix r.b r.c r.d + x.getD call.1 0#w + BitVec.ofNat w call.2.2)
  { a := r.d, b := rotateLeft a call.2.1 + r.b, c := r.b, d := r.c }

def round1 : List (ℕ × ℕ × ℕ) :=
  [(0, 7, 0xd76aa478), (1, 12, 0xe8c7b756), (2, 17, 0x242070db), (3, 22, 0xc1bdceee),
   (4, 7, 0xf57c0faf), (5, 12, 0x4787c62a), (6, 17, 0xa8304613), (7, 22, 0xfd469501),
   (8, 7, 0x698098d8), (9, 12, 0x8b44f7af), (10, 17, 0xffff5bb1), (11, 22, 0x895cd7be),
   (12, 7, 0x6b901122), (13, 12, 0xfd987193), (14, 17, 0xa679438e), (15, 22, 0x49b40821)]

def round2 : List (ℕ × ℕ × ℕ) :=
  [(1, 5, 0xf61e2562), (6, 9, 0xc040b340), (11, 14, 0x265e5a51), (0, 20, 0xe9b6c7aa),
   (5, 5, 0xd62f105d), (10, 9, 0x2441453), (15, 14, 0xd8a1e681), (4, 20, 0xe7d3fbc8),
   (9, 5, 0x21e1cde6), (14, 9, 0xc33707d6), (3, 14, 0xf4d50d87), (8, 20, 0x455a14ed),
   (13, 5, 0xa9e3e905), (2, 9, 0xfcefa3f8), (7, 14, 0x676f02d9), (12, 20, 0x8d2a4c8a)]

def round3 : List (ℕ × ℕ × ℕ) :=
  [(5, 4, 0xfffa3942), (8, 11, 0x8771f681), (11, 16, 0x6d9d6122), (14, 23, 0xfde5380c),
   (1, 4, 0xa4beea44), (4, 11, 0x4bdecfa9), (7, 16, 0xf6bb4b60), (10, 23, 0xbebfbc70),
   (13, 4, 0x289b7ec6), (0, 11, 0xeaa127fa), (3, 16, 0xd4ef3085), (6, 23, 0x4881d05),
   (9, 4, 0xd9d4d039), (12, 11, 0xe6db99e5), (15, 16, 0x1fa27cf8), (2, 23, 0xc4ac5665)]

def round4 : List (ℕ × ℕ × ℕ) :=
  [(0, 6, 0xf4292244), (7, 10, 0x432aff97), (14, 15, 0xab9423a7), (5, 21, 0xfc93a039),
   (12, 6, 0x655b59c3), (3, 10, 0x8f0ccc92), (10, 15, 0xffeff47d), (1, 21, 0x85845dd1),
   (8, 6, 0x6fa87e4f), (15, 10, 0xfe2ce6e0), (6, 15, 0xa3014314), (13, 21, 0x4e0811a1),
   (4, 6, 0xf7537e82), (11, 10, 0xbd3af235), (2, 15, 0x2ad7d2bb), (9, 21, 0xeb86d391)]

def decode : List UInt8 → List (BitVec w)
  | b0 :: b1 :: b2 :: b3 :: rest =>
      (BitVec.ofNat w b0.toNat ||| (BitVec.ofNat w b1.toNat <<< 8) |||
        (BitVec.ofNat w b2.toNat <<< 16) ||| (BitVec.ofNat w b3.toNat <<< 24)) :: decode rest
  | _ => []

def encodeWord (word : BitVec w) : List UInt8 :=
  (List.range 4).map fun j => UInt8.ofNat ((word >>> (8 * j)) &&& BitVec.ofNat w 0xff).toNat

def encode (words : List (BitVec w)) : List UInt8 := words.flatMap encodeWord

def md5Transform (state : Registers w) (block : List UInt8) : Registers w :=
  let x := decode block
  let r := round1.foldl (round f x) state
  let r := round2.foldl (round g x) r
  let r := round3.foldl (round h x) r
  let r := round4.foldl (round i x) r
  { a := state.a + r.a, b := state.b + r.b, c := state.c + r.c, d := state.d + r.d }

/-- `MD5_memcpy(&buffer[index], input, …)`, for all of `input`. -/
def memcpy (buffer : Vector UInt8 64) (index : ℕ) (input : List UInt8) : Vector UInt8 64 :=
  Vector.ofFn fun j => if j < index then buffer[j] else input.getD (j - index) buffer[j]

/-- The loop of `MD5Update`, with the index it ends at. -/
def transformBlocks (input : List UInt8) (state : Registers w) (i : ℕ) : Registers w × ℕ :=
  if i + 63 < input.length then
    transformBlocks input (md5Transform state ((input.drop i).take 64)) (i + 64)
  else (state, i)
termination_by input.length - i

/-- `MD5Update`, for an input so short that `i + 63` stays an `unsigned int`. -/
def md5Update (context : Context w) (input : List UInt8) : Context w :=
  let index := ((context.count0 >>> 3) &&& BitVec.ofNat w 0x3F).toNat
  let bits := BitVec.ofNat w input.length <<< 3
  let count0 := context.count0 + bits
  let count1 := (if count0 < bits then context.count1 + 1#w else context.count1) +
    BitVec.ofNat w input.length >>> 29
  let partLen := 64 - index
  if partLen ≤ input.length then
    let buffer := memcpy context.buffer index (input.take partLen)
    let (state, i) :=
      transformBlocks input (md5Transform context.state buffer.toList) partLen
    { state, count0, count1, buffer := memcpy buffer 0 (input.drop i) }
  else { state := context.state, count0, count1, buffer := memcpy context.buffer index input }

def padding : List UInt8 := 0x80 :: List.replicate 63 0

def md5Final (context : Context w) : List UInt8 :=
  let bits := encode [context.count0, context.count1]
  let index := ((context.count0 >>> 3) &&& BitVec.ofNat w 0x3F).toNat
  let padLen := if index < 56 then 56 - index else 120 - index
  let context := md5Update context (padding.take padLen)
  let context := md5Update context bits
  encode [context.state.a, context.state.b, context.state.c, context.state.d]

/-- A message with its padding and its length in bits behind it, for the comparison. -/
def padded (message : List UInt8) : List UInt8 :=
  message ++ 0x80 :: List.replicate ((119 - message.length % 64) % 64) 0 ++
    (List.range 8).map fun j => UInt8.ofNat (8 * message.length / 256 ^ j)

/-- The digest as one fold over the blocks of the padded message, for the comparison. -/
def md5 (w : ℕ) (message : List UInt8) : List UInt8 :=
  let state := (blocks 64 (padded message)).foldl md5Transform (initialState w)
  encode [state.a, state.b, state.c, state.d]

example : md5 32 [] =
    [0xd4, 0x1d, 0x8c, 0xd9, 0x8f, 0x00, 0xb2, 0x04,
      0xe9, 0x80, 0x09, 0x98, 0xec, 0xf8, 0x42, 0x7e] := by
  decide +kernel

theorem index_of_count0 (hw : 32 ≤ w) (total : ℕ) :
    ((BitVec.ofNat w (8 * total) >>> 3) &&& BitVec.ofNat w 0x3F).toNat = total % 64 := by
  obtain ⟨k, rfl⟩ := Nat.exists_eq_add_of_le hw
  have hpow : 2 ^ (32 + k) = 8 * (64 * (2 ^ 23 * 2 ^ k)) := by
    rw [Nat.pow_add]
    omega
  have hmask : 0x3F % 2 ^ (32 + k) = 2 ^ 6 - 1 := by
    have hpos : 0 < 2 ^ k := Nat.two_pow_pos k
    rw [hpow, Nat.mod_eq_of_lt (by omega)]
    rfl
  rw [BitVec.toNat_and, BitVec.toNat_ushiftRight, BitVec.toNat_ofNat, BitVec.toNat_ofNat, hmask,
    Nat.and_two_pow_sub_one_eq_mod, Nat.shiftRight_eq_div_pow, hpow, Nat.mul_mod_mul_left]
  change 8 * (total % (64 * (2 ^ 23 * 2 ^ k))) / 8 % 64 = total % 64
  rw [Nat.mul_div_cancel_left _ (by omega), Nat.mod_mul_right_mod]

theorem uint8_ofNat_congr {m n : ℕ} (h : m % 256 = n % 256) :
    UInt8.ofNat m = UInt8.ofNat n := by
  apply UInt8.toNat_inj.mp
  rw [UInt8.toNat_ofNat', UInt8.toNat_ofNat']
  exact h

theorem encodeWord_ofNat (hw : 32 ≤ w) (n : ℕ) :
    encodeWord (BitVec.ofNat w n) = (List.range 4).map fun j => UInt8.ofNat (n / 256 ^ j) := by
  refine List.map_congr_left fun j hj => uint8_ofNat_congr ?_
  have hj : j < 4 := List.mem_range.mp hj
  obtain ⟨k, hk⟩ : ∃ k, w = 8 * j + (8 + k) := ⟨w - 8 * j - 8, by omega⟩
  have hbyte : 0xff % 2 ^ w = 2 ^ 8 - 1 :=
    Nat.mod_eq_of_lt (lt_of_lt_of_le (by decide : 0xff < 2 ^ 8)
      (Nat.pow_le_pow_right (by decide) (by omega)))
  have hpow : (256 : ℕ) ^ j = 2 ^ (8 * j) := by rw [Nat.pow_mul]
  rw [BitVec.toNat_and, BitVec.toNat_ushiftRight, BitVec.toNat_ofNat, BitVec.toNat_ofNat, hbyte,
    Nat.and_two_pow_sub_one_eq_mod, Nat.shiftRight_eq_div_pow, hpow, hk, Nat.pow_add,
    Nat.mod_mul_right_div_self, Nat.pow_add 2 8 k, Nat.mod_mul_right_mod]
  exact Nat.mod_mod _ _

theorem encode_counts (hw : 32 ≤ w) (n : ℕ) :
    encode [BitVec.ofNat w n, BitVec.ofNat w (n / 2 ^ 32)] =
      (List.range 8).map fun j => UInt8.ofNat (n / 256 ^ j) := by
  have hhigh : ∀ j, n / 2 ^ 32 / 256 ^ j = n / 256 ^ (4 + j) := by
    intro j
    rw [Nat.div_div_eq_div_mul, Nat.pow_add]
    rfl
  have hsplit : List.range 8 = List.range 4 ++ (List.range 4).map (4 + ·) := rfl
  rw [encode, List.flatMap_cons, List.flatMap_cons, List.flatMap_nil, List.append_nil,
    encodeWord_ofNat hw, encodeWord_ofNat hw, hsplit, List.map_append, List.map_map]
  simp only [hhigh, Function.comp_def]

theorem toList_memcpy {buffer : Vector UInt8 64} {index : ℕ} {input : List UInt8}
    (h : index + input.length ≤ 64) :
    (memcpy buffer index input).toList =
      buffer.toList.take index ++ input ++ buffer.toList.drop (index + input.length) := by
  rw [memcpy, Vector.toList_ofFn]
  refine List.ext_getElem ?_ fun j hj hj' => ?_
  · simp only [Vector.length_toList, List.length_ofFn, List.length_append, List.length_take,
      List.length_drop]
    omega
  · have hj : j < 64 := by rwa [List.length_ofFn] at hj
    rw [List.getElem_ofFn]
    have hlength : buffer.toList.length = 64 := buffer.length_toList
    have hget (hlt : j < buffer.toList.length) : buffer[j] = buffer.toList[j] :=
      (Vector.getElem_toList hlt).symm
    simp only [Fin.getElem_fin]
    grind

theorem length_encode (words : List (BitVec w)) : (encode words).length = 4 * words.length := by
  induction words with
  | nil => rfl
  | cons word words ih =>
      change (encodeWord word ++ encode words).length = _
      rw [List.length_append, ih, encodeWord, List.length_map, List.length_range,
        List.length_cons]
      omega

/-- The loop of `MD5Update` takes in whole blocks, until less than one is left. -/
theorem absorb_transformBlocks {input : List UInt8} {state : Registers w} {i : ℕ}
    (hi : i ≤ input.length) {next : Registers w} {j : ℕ}
    (h : transformBlocks input state i = (next, j)) :
    j ≤ input.length ∧ input.length < j + 64 ∧
      absorb md5Transform (start (by decide : 0 < 64) state) (input.drop i) =
        absorb md5Transform (start (by decide : 0 < 64) next) (input.drop j) := by
  induction state, i using transformBlocks.induct input with
  | case1 state i hlt ih =>
      rw [transformBlocks, if_pos hlt] at h
      obtain ⟨hle, hrest, heq⟩ := ih (by omega) h
      refine ⟨hle, hrest, ?_⟩
      have hblock : ((input.drop i).take 64).length = 64 := by
        rw [List.length_take, List.length_drop]
        omega
      rw [← heq, ← List.take_append_drop 64 (input.drop i), absorb_append,
        absorb_block hblock, List.take_append_drop, List.drop_drop]
  | case2 state i hge =>
      rw [transformBlocks, if_neg hge] at h
      obtain ⟨rfl, rfl⟩ := Prod.mk.inj h
      exact ⟨hi, by omega, rfl⟩

/-- The context after `total` bytes that have been taken in as `run`. -/
structure Represents (context : Context w) (total : ℕ)
    (run : Running (Registers w) UInt8 64) : Prop where
  state : context.state = run.chain
  waiting : context.buffer.toList.take run.waiting.length = run.waiting
  length : run.waiting.length = total % 64
  count0 : context.count0 = BitVec.ofNat w (8 * total)

theorem represents_md5Init (buffer : Vector UInt8 64) :
    Represents (w := w) (md5Init buffer) 0 (start (by decide) (initialState w)) where
  state := rfl
  waiting := rfl
  length := rfl
  count0 := rfl

theorem shiftLeft_ofNat (n : ℕ) : BitVec.ofNat w n <<< 3 = BitVec.ofNat w (8 * n) := by
  apply BitVec.eq_of_toNat_eq
  rw [BitVec.toNat_shiftLeft, BitVec.toNat_ofNat, BitVec.toNat_ofNat, Nat.shiftLeft_eq,
    Nat.mod_mul_mod, Nat.mul_comm]

theorem count0_md5Update (context : Context w) (input : List UInt8) :
    (md5Update context input).count0 =
      context.count0 + BitVec.ofNat w (8 * input.length) := by
  rw [← shiftLeft_ofNat, md5Update]
  split <;> rfl

theorem md5Update_of_short {context : Context w} {input : List UInt8} {index : ℕ}
    (hindex : ((context.count0 >>> 3) &&& BitVec.ofNat w 0x3F).toNat = index)
    (h : index + input.length < 64) (hpos : index ≤ 64) :
    (md5Update context input).state = context.state ∧
      (md5Update context input).buffer = memcpy context.buffer index input := by
  rw [md5Update]
  simp only [hindex, if_neg (by omega : ¬ 64 - index ≤ input.length), and_self]

theorem md5Update_of_full {context : Context w} {input : List UInt8} {index : ℕ}
    (hindex : ((context.count0 >>> 3) &&& BitVec.ofNat w 0x3F).toNat = index)
    (h : 64 ≤ index + input.length) {next : Registers w} {i : ℕ}
    (hloop : transformBlocks input (md5Transform context.state
      (memcpy context.buffer index (input.take (64 - index))).toList) (64 - index) = (next, i)) :
    (md5Update context input).state = next ∧ ∃ buffer,
      (md5Update context input).buffer = memcpy buffer 0 (input.drop i) := by
  rw [md5Update]
  simp only [hindex, if_pos (by omega : 64 - index ≤ input.length), hloop, true_and]
  exact ⟨_, rfl⟩

/-- `MD5Update` takes in its input, wherever the block begins. -/
theorem represents_md5Update (hw : 32 ≤ w) {context : Context w} {total : ℕ}
    {run : Running (Registers w) UInt8 64} (hrep : Represents context total run)
    (input : List UInt8) :
    Represents (md5Update context input) (total + input.length)
      (absorb md5Transform run input) := by
  have hindex : ((context.count0 >>> 3) &&& BitVec.ofNat w 0x3F).toNat = run.waiting.length := by
    rw [hrep.count0, index_of_count0 hw, hrep.length]
  have hshort := run.short
  have hcount : (md5Update context input).count0 =
      BitVec.ofNat w (8 * (total + input.length)) := by
    rw [count0_md5Update, hrep.count0, Nat.mul_add, BitVec.ofNat_add]
  have hlength : (absorb md5Transform run input).waiting.length =
      (total + input.length) % 64 := by
    rw [length_waiting_absorb, hrep.length, Nat.mod_add_mod]
  rcases Nat.lt_or_ge (run.waiting.length + input.length) 64 with hless | hmore
  · -- the block does not get full
    have hfits : (run.waiting ++ input).length < 64 := by rwa [List.length_append]
    have habsorb : absorb md5Transform run input = ⟨run.chain, run.waiting ++ input, hfits⟩ :=
      absorb_of_short hfits
    obtain ⟨hstate, hbuffer⟩ := md5Update_of_short hindex hless hshort.le
    refine ⟨?_, ?_, hlength, hcount⟩
    · rw [hstate, habsorb, hrep.state]
    · rw [hbuffer, habsorb, toList_memcpy hless.le, hrep.waiting]
      exact List.take_left
  · -- the buffer is filled up, and what is left of the input follows from its start
    obtain ⟨first, rest, rfl, hfirst⟩ : ∃ first rest, input = first ++ rest ∧
        first.length = 64 - run.waiting.length :=
      ⟨input.take (64 - run.waiting.length), input.drop (64 - run.waiting.length),
        (List.take_append_drop _ _).symm, by rw [List.length_take]; omega⟩
    have hblock : (memcpy context.buffer run.waiting.length first).toList =
        run.waiting ++ first := by
      rw [toList_memcpy (by omega), hfirst, hrep.waiting, Nat.add_sub_cancel' hshort.le,
        List.drop_of_length_le (by rw [Vector.length_toList]), List.append_nil]
    have hfull : (run.waiting ++ first).length = 64 := by
      rw [List.length_append]
      omega
    rcases hloop : transformBlocks (first ++ rest)
      (md5Transform run.chain (run.waiting ++ first)) (64 - run.waiting.length) with ⟨next, i⟩
    obtain ⟨hle, hend, hsame⟩ := absorb_transformBlocks
      (by rw [List.length_append]; omega) hloop
    have htail : ((first ++ rest).drop i).length < 64 := by
      rw [List.length_drop]
      omega
    have habsorb : absorb md5Transform run (first ++ rest) =
        ⟨next, (first ++ rest).drop i, htail⟩ := by
      rw [List.drop_left' hfirst] at hsame
      rw [absorb_append, absorb_of_full hfull, hsame, absorb_start_of_short htail]
    have hfilled : transformBlocks (first ++ rest) (md5Transform context.state
        (memcpy context.buffer run.waiting.length
          ((first ++ rest).take (64 - run.waiting.length))).toList)
        (64 - run.waiting.length) = (next, i) := by
      rw [List.take_left' hfirst, hblock, hrep.state, hloop]
    obtain ⟨hstate, buffer, hbuffer⟩ := md5Update_of_full hindex hmore hfilled
    refine ⟨?_, ?_, hlength, hcount⟩
    · rw [hstate, habsorb]
    · rw [hbuffer, habsorb, toList_memcpy (by omega), List.take_zero, List.nil_append]
      exact List.take_left

/-- The two counts of width `w` hold the number of bits of `total` bytes, modulo 2⁶⁴. -/
def Counts (w total : ℕ) : Prop := w = 32 ∨ 32 ≤ w ∧ total < 2 ^ 29

theorem Counts.width {total : ℕ} (h : Counts w total) : 32 ≤ w := by
  rcases h with rfl | ⟨hw, -⟩
  · exact Nat.le_refl 32
  · exact hw

theorem Counts.mono {total total' : ℕ} (h : Counts w total') (hle : total ≤ total') :
    Counts w total :=
  h.imp_right fun ⟨hw, hlt⟩ => ⟨hw, lt_of_le_of_lt hle hlt⟩

theorem count1_md5Update {context : Context w} {total : ℕ} {input : List UInt8}
    (hcount0 : context.count0 = BitVec.ofNat w (8 * total))
    (hcount1 : context.count1 = BitVec.ofNat w (8 * total / 2 ^ 32))
    (hcounts : Counts w (total + input.length)) (hinput : input.length < 2 ^ 32) :
    (md5Update context input).count1 =
      BitVec.ofNat w (8 * (total + input.length) / 2 ^ 32) := by
  have hvalue : (md5Update context input).count1 =
      (if context.count0 + BitVec.ofNat w (8 * input.length) < BitVec.ofNat w (8 * input.length)
        then context.count1 + 1#w else context.count1) +
        BitVec.ofNat w input.length >>> 29 := by
    rw [← shiftLeft_ofNat, md5Update]
    split <;> rfl
  rw [hvalue, hcount0, hcount1]
  apply BitVec.eq_of_toNat_eq
  rcases hcounts with rfl | ⟨hw, htotal⟩
  · simp only [BitVec.lt_def, BitVec.toNat_add, BitVec.toNat_ofNat, BitVec.toNat_ushiftRight,
      Nat.shiftRight_eq_div_pow]
    split
    · simp only [BitVec.toNat_add, BitVec.toNat_ofNat]
      omega
    · simp only [BitVec.toNat_ofNat]
      omega
  · have hpow : 2 ^ 32 ≤ 2 ^ w := Nat.pow_le_pow_right (by decide) hw
    have hcarry : ¬ BitVec.ofNat w (8 * total) + BitVec.ofNat w (8 * input.length) <
        BitVec.ofNat w (8 * input.length) := by
      rw [BitVec.lt_def, BitVec.toNat_add, BitVec.toNat_ofNat, BitVec.toNat_ofNat,
        Nat.mod_eq_of_lt (by omega : 8 * total < 2 ^ w),
        Nat.mod_eq_of_lt (by omega : 8 * input.length < 2 ^ w), Nat.mod_eq_of_lt (by omega)]
      omega
    have hhigh : 8 * total / 2 ^ 32 = 0 := Nat.div_eq_of_lt (by omega)
    have hhigh' : 8 * (total + input.length) / 2 ^ 32 = 0 := Nat.div_eq_of_lt (by omega)
    have hshift : input.length / 2 ^ 29 = 0 := Nat.div_eq_of_lt (by omega)
    rw [if_neg hcarry, hhigh, hhigh', BitVec.toNat_add, BitVec.toNat_ushiftRight,
      BitVec.toNat_ofNat, BitVec.toNat_ofNat, Nat.shiftRight_eq_div_pow,
      Nat.mod_eq_of_lt (by omega : input.length < 2 ^ w), hshift]
    simp

theorem dvd_length_padded (message : List UInt8) : 64 ∣ (padded message).length := by
  rw [padded, List.length_append, List.length_append, List.length_cons, List.length_replicate,
    List.length_map, List.length_range]
  omega

theorem take_padding (index : ℕ) (h : index < 64) :
    padding.take (if index < 56 then 56 - index else 120 - index) =
      0x80 :: List.replicate ((119 - index) % 64) 0 := by
  have hlength : (if index < 56 then 56 - index else 120 - index) = (119 - index) % 64 + 1 := by
    split <;> omega
  rw [hlength, padding, List.take_succ_cons, List.take_replicate,
    Nat.min_eq_left (by omega)]

theorem md5Final_of_represents {context : Context w} {message : List UInt8}
    (hrep : Represents context message.length
      (absorb md5Transform (start (by decide) (initialState w)) message))
    (hcount1 : context.count1 = BitVec.ofNat w (8 * message.length / 2 ^ 32)) (hw : 32 ≤ w) :
    md5Final context = md5 w message := by
  have hbits : encode [context.count0, context.count1] =
      (List.range 8).map fun j => UInt8.ofNat (8 * message.length / 256 ^ j) := by
    rw [hrep.count0, hcount1, encode_counts hw]
  have hpadding := take_padding (message.length % 64) (Nat.mod_lt _ (by decide))
  have hfinal := represents_md5Update hw (represents_md5Update hw hrep
    (padding.take (if message.length % 64 < 56 then 56 - message.length % 64
      else 120 - message.length % 64))) (encode [context.count0, context.count1])
  have hdigest := hfinal.state
  rw [hpadding, hbits, ← absorb_append, ← absorb_append, ← List.append_assoc, ← padded.eq_1,
    absorb_of_dvd (dvd_length_padded message)] at hdigest
  have hindex : ((context.count0 >>> 3) &&& BitVec.ofNat w 0x3F).toNat = message.length % 64 := by
    rw [hrep.count0, index_of_count0 hw]
  rw [md5Final]
  simp only [hindex, hpadding, hbits, hdigest]
  rfl

theorem represents_foldl {context : Context w} {total : ℕ}
    {run : Running (Registers w) UInt8 64} (hrep : Represents context total run)
    (hcount1 : context.count1 = BitVec.ofNat w (8 * total / 2 ^ 32)) (chunks : List (List UInt8))
    (hcounts : Counts w (total + chunks.flatten.length))
    (hchunks : ∀ chunk ∈ chunks, chunk.length < 2 ^ 32) :
    Represents (chunks.foldl md5Update context) (total + chunks.flatten.length)
        (absorb md5Transform run chunks.flatten) ∧
      (chunks.foldl md5Update context).count1 =
        BitVec.ofNat w (8 * (total + chunks.flatten.length) / 2 ^ 32) := by
  induction chunks generalizing context total run with
  | nil => exact ⟨hrep, hcount1⟩
  | cons chunk chunks ih =>
      rw [List.flatten_cons, List.length_append, ← Nat.add_assoc] at hcounts ⊢
      have hnext := represents_md5Update hcounts.width hrep chunk
      have hcount1' := count1_md5Update hrep.count0 hcount1
        (hcounts.mono (Nat.le_add_right _ _)) (hchunks chunk List.mem_cons_self)
      rw [List.foldl_cons, absorb_append]
      exact ih hnext hcount1' hcounts fun chunk' hchunk' =>
        hchunks chunk' (List.mem_cons_of_mem _ hchunk')

/-- However a message is cut into calls of `MD5Update`, the digest is that of the whole. -/
theorem md5Final_chunks {chunks : List (List UInt8)} (buffer : Vector UInt8 64)
    (hcounts : Counts w chunks.flatten.length)
    (hchunks : ∀ chunk ∈ chunks, chunk.length < 2 ^ 32 - 63) :
    md5Final (chunks.foldl md5Update (md5Init buffer : Context w)) = md5 w chunks.flatten := by
  have hcounts' : Counts w (0 + chunks.flatten.length) := by rwa [Nat.zero_add]
  have hrun := represents_foldl (represents_md5Init buffer) rfl chunks hcounts'
    fun chunk hchunk => lt_of_lt_of_le (hchunks chunk hchunk) (Nat.sub_le _ _)
  rw [Nat.zero_add] at hrun
  exact md5Final_of_represents hrun.1 hrun.2 hcounts.width

theorem md5Final_chunks_of_two :
    md5Final ([[0x61], [0x62, 0x63]].foldl md5Update
        (md5Init (Vector.replicate 64 0xCC) : Context 32)) = md5 32 [0x61, 0x62, 0x63] :=
  md5Final_chunks _ (Or.inl rfl) (by decide)

theorem length_md5 (w : ℕ) (message : List UInt8) : (md5 w message).length = 16 :=
  length_encode _

end GBServer.Md5
