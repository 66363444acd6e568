import Mathlib.Data.List.Basic

namespace Foundation.BlockHash

variable {σ α : Type*} {n : ℕ}

/-- The chaining value, and the symbols of the block that is not full yet. -/
@[ext]
structure Running (σ α : Type*) (n : ℕ) where
  chain : σ
  waiting : List α
  short : waiting.length < n

def start (hn : 0 < n) (s : σ) : Running σ α n := ⟨s, [], hn⟩

def feed (compress : σ → List α → σ) (run : Running σ α n) (symbol : α) : Running σ α n :=
  if h : (run.waiting ++ [symbol]).length < n then ⟨run.chain, run.waiting ++ [symbol], h⟩
  else ⟨compress run.chain (run.waiting ++ [symbol]), [], Nat.zero_lt_of_lt run.short⟩

def absorb (compress : σ → List α → σ) (run : Running σ α n) (symbols : List α) :
    Running σ α n :=
  symbols.foldl (feed compress) run

variable {compress : σ → List α → σ} {run : Running σ α n} {symbols rest : List α}

@[simp] theorem absorb_nil : absorb compress run [] = run := rfl

theorem absorb_append :
    absorb compress run (symbols ++ rest) =
      absorb compress (absorb compress run symbols) rest :=
  List.foldl_append

theorem absorb_of_short (h : (run.waiting ++ symbols).length < n) :
    absorb compress run symbols = ⟨run.chain, run.waiting ++ symbols, h⟩ := by
  induction symbols generalizing run with
  | nil => ext1 <;> simp
  | cons symbol symbols ih =>
      have hlength : (run.waiting ++ [symbol]).length < n := by
        rw [List.length_append, List.length_cons] at h
        rw [List.length_append, List.length_singleton]
        omega
      have hfeed : feed compress run symbol = ⟨run.chain, run.waiting ++ [symbol], hlength⟩ :=
        dif_pos hlength
      change absorb compress (feed compress run symbol) symbols = _
      rw [hfeed, ih (by simpa using h)]
      ext1
      · rfl
      · exact List.append_assoc _ _ _

theorem absorb_start_of_short {s : σ} {hn : 0 < n} (h : symbols.length < n) :
    absorb compress (start hn s) symbols = ⟨s, symbols, h⟩ := by
  apply absorb_of_short

theorem absorb_of_full (h : (run.waiting ++ symbols).length = n) :
    absorb compress run symbols =
      start (Nat.zero_lt_of_lt run.short) (compress run.chain (run.waiting ++ symbols)) := by
  have hnonempty : symbols ≠ [] := by
    rintro rfl
    rw [List.append_nil] at h
    exact absurd run.short (by omega)
  obtain ⟨before, symbol, rfl⟩ := List.eq_nil_or_concat symbols |>.resolve_left hnonempty
  simp only [List.concat_eq_append, List.length_append, List.length_singleton] at h ⊢
  have hshort : (run.waiting ++ before).length < n := by
    rw [List.length_append]
    omega
  have hfull : ¬ (run.waiting ++ before ++ [symbol]).length < n := by
    rw [List.length_append, List.length_append, List.length_singleton]
    omega
  rw [absorb_append, absorb_of_short hshort]
  change feed compress _ symbol = _
  rw [feed, dif_neg hfull, start, List.append_assoc]

theorem absorb_block {s : σ} {hn : 0 < n} (h : symbols.length = n) :
    absorb compress (start hn s) symbols = start hn (compress s symbols) :=
  absorb_of_full (by simpa [start] using h)

/-- Over whole blocks the hash is a fold of the compression function. -/
theorem absorb_flatten {s : σ} {hn : 0 < n} (blocks : List (List α))
    (hblocks : ∀ block ∈ blocks, block.length = n) :
    absorb compress (start hn s) blocks.flatten = start hn (blocks.foldl compress s) := by
  induction blocks generalizing s with
  | nil => rfl
  | cons block blocks ih =>
      rw [List.flatten_cons, absorb_append, absorb_block (hblocks block List.mem_cons_self),
        ih fun block' hblock' => hblocks block' (List.mem_cons_of_mem _ hblock'),
        List.foldl_cons]

/-- The whole blocks of `symbols`. -/
def blocks (n : ℕ) (symbols : List α) : List (List α) :=
  (List.range (symbols.length / n)).map fun i => (symbols.drop (n * i)).take n

theorem flatten_blocks_prefix (n : ℕ) (symbols : List α) (count : ℕ) :
    ((List.range count).map fun i => (symbols.drop (n * i)).take n).flatten =
      symbols.take (n * count) := by
  induction count with
  | zero => simp
  | succ count ih =>
      rw [List.range_succ, List.map_append, List.flatten_append, ih, List.map_singleton,
        List.flatten_singleton, Nat.mul_succ, List.take_add]

theorem flatten_blocks (h : n ∣ symbols.length) : (blocks n symbols).flatten = symbols := by
  rw [blocks, flatten_blocks_prefix, Nat.mul_div_cancel' h, List.take_length]

theorem length_of_mem_blocks {block : List α} (h : block ∈ blocks n symbols) :
    block.length = n := by
  obtain ⟨i, hi, rfl⟩ := List.mem_map.mp h
  have hwhole : n * (i + 1) ≤ symbols.length :=
    Nat.le_trans (Nat.mul_le_mul_left n (List.mem_range.mp hi)) (Nat.mul_div_le _ _)
  rw [Nat.mul_succ] at hwhole
  rw [List.length_take, List.length_drop]
  omega

theorem absorb_of_dvd {s : σ} {hn : 0 < n} (h : n ∣ symbols.length) :
    absorb compress (start hn s) symbols =
      start hn ((blocks n symbols).foldl compress s) := by
  have hblocks : absorb compress (start hn s) (blocks n symbols).flatten =
      start hn ((blocks n symbols).foldl compress s) :=
    absorb_flatten (blocks n symbols) fun block hblock => length_of_mem_blocks hblock
  rwa [flatten_blocks h] at hblocks

theorem length_waiting_absorb :
    (absorb compress run symbols).waiting.length =
      (run.waiting.length + symbols.length) % n := by
  induction symbols generalizing run with
  | nil => exact (Nat.mod_eq_of_lt run.short).symm
  | cons symbol symbols ih =>
      have hstep : (feed compress run symbol).waiting.length =
          (run.waiting.length + 1) % n := by
        rw [feed]
        split
        · next h =>
            rw [List.length_append, List.length_singleton] at h ⊢
            exact (Nat.mod_eq_of_lt h).symm
        · next h =>
            rw [List.length_append, List.length_singleton] at h
            have hfull : run.waiting.length + 1 = n := by
              have := run.short
              omega
            rw [hfull, Nat.mod_self, List.length_nil]
      change (absorb compress (feed compress run symbol) symbols).waiting.length = _
      rw [ih, hstep, Nat.mod_add_mod, List.length_cons]
      congr 1
      omega

end Foundation.BlockHash
