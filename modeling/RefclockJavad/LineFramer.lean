import RefclockJavad.State

/-!
`javad_receive`, the driver's active input path, and `frame`, what it is for.
-/

namespace RefclockJavad.LineFramer

open RefclockJavad.State

def ibufSize : Nat := 512

def bytes (mem : Nat → UInt8) (pos : Nat) : Nat → List UInt8
  | 0 => []
  | n + 1 => mem pos :: bytes mem (pos + 1) n

def buffered (s : Instance) : List UInt8 := bytes s.ibuf 0 s.ssize

/-- `strlcpy(dst + pos, src, size)`: copy up to the first NUL, at most `size - 1`
bytes, and store a NUL after them. -/
def strlcpy (dst : Nat → UInt8) (pos : Nat) : List UInt8 → Nat → Nat → UInt8
  | _, 0 => dst
  | [], _ + 1 => Function.update dst pos 0
  | c :: cs, size + 1 =>
      if c = 0 ∨ size = 0 then Function.update dst pos 0
      else strlcpy (Function.update dst pos c) (pos + 1) cs size

def strlcpyCount : List UInt8 → Nat → Nat
  | _, 0 => 0
  | [], _ + 1 => 0
  | c :: cs, size + 1 => if c = 0 ∨ size = 0 then 0 else strlcpyCount cs size + 1

/-- `memcpy(mem + dst, mem + src, n)`, read before written. -/
def memcpy (mem : Nat → UInt8) (dst src n : Nat) : Nat → UInt8 :=
  fun k => if dst ≤ k ∧ k < dst + n then mem (src + (k - dst)) else mem k

/-- `sizeof(instance->ibuf) - (instance->ssize - 1)`, a `size_t`. -/
def clampBound (ssize : Nat) : Nat :=
  (ibufSize + 2 ^ 64 - (ssize + 2 ^ 64 - 1) % 2 ^ 64) % 2 ^ 64

def receiveLength (ssize recvLength : Nat) : Nat :=
  if clampBound ssize < recvLength then clampBound ssize else recvLength

def findEol (ibuf : Nat → UInt8) (cp : Nat) : Nat → Option Nat
  | 0 => none
  | 1 => none
  | len + 2 =>
      if ibuf cp = 13 ∧ ibuf (cp + 1) = 10 then some (cp + 2)
      else findEol ibuf (cp + 1) (len + 1)

/-- The indices the CR LF search reads, in order. -/
def scanReads (ibuf : Nat → UInt8) (cp : Nat) : Nat → List Nat
  | 0 => []
  | 1 => []
  | len + 2 =>
      if ibuf cp = 13 then
        if ibuf (cp + 1) = 10 then [cp, cp + 1]
        else cp :: (cp + 1) :: scanReads ibuf (cp + 1) (len + 1)
      else cp :: scanReads ibuf (cp + 1) (len + 1)

inductive Received
  | pending
  | line (bytes : List UInt8)
  | aborted
  deriving DecidableEq, Repr

def javadReceive (s : Instance) (chunk : List UInt8) : Instance × Received :=
  let len := receiveLength s.ssize chunk.length
  let ibuf := strlcpy s.ibuf s.ssize chunk (len + 1)
  let ssize := s.ssize + len
  match findEol ibuf 0 ssize with
  | none => ({ s with ibuf, ssize }, .pending)
  | some len =>
      if ssize = len then
        ({ s with ibuf := Function.update ibuf 0 0, ssize := 0 }, .line (bytes ibuf 0 len))
      else if len < ssize then
        ({ s with ibuf := memcpy ibuf 0 len (ssize + 1), ssize := ssize - len },
          .line (bytes ibuf 0 len))
      else ({ s with ibuf, ssize }, .aborted)

structure Access where
  write : Bool
  lo : Nat
  hi : Nat
  deriving DecidableEq, Repr

def scanEnd (ibuf : Nat → UInt8) (ssize : Nat) : Nat :=
  match findEol ibuf 0 ssize with
  | some eol => eol
  | none => if ssize < 2 then 0 else if ibuf (ssize - 2) = 13 then ssize else ssize - 1

/-- The stretches of `ibuf` one call touches, in order. -/
def receiveAccesses (s : Instance) (chunk : List UInt8) : List Access :=
  let len := receiveLength s.ssize chunk.length
  let ibuf := strlcpy s.ibuf s.ssize chunk (len + 1)
  let ssize := s.ssize + len
  ⟨true, s.ssize, s.ssize + strlcpyCount chunk (len + 1) + 1⟩ ::
    ⟨false, 0, scanEnd ibuf ssize⟩ ::
    match findEol ibuf 0 ssize with
    | none => []
    | some len =>
        ⟨false, 0, len⟩ ::
          if ssize = len then [⟨true, 0, 1⟩]
          else if len < ssize then [⟨false, len, len + ssize + 1⟩, ⟨true, 0, ssize + 1⟩]
          else []

def crlfIndex : List UInt8 → Option Nat
  | [] => none
  | [_] => none
  | a :: b :: rest => if a = 13 ∧ b = 10 then some 0 else (crlfIndex (b :: rest)).map (· + 1)

/-- The framer on the buffered bytes: append the chunk and hand out everything up
to the first CR LF. -/
def frame (buf chunk : List UInt8) : List UInt8 × Option (List UInt8) :=
  match crlfIndex (buf ++ chunk) with
  | none => (buf ++ chunk, none)
  | some i => ((buf ++ chunk).drop (i + 2), some ((buf ++ chunk).take (i + 2)))

def Received.ofLine : Option (List UInt8) → Received
  | none => .pending
  | some l => .line l

@[simp] theorem length_bytes (mem : Nat → UInt8) (pos n : Nat) : (bytes mem pos n).length = n := by
  induction n generalizing pos with
  | zero => rfl
  | succ n ih => simp [bytes, ih]

theorem bytes_add (mem : Nat → UInt8) (pos m n : Nat) :
    bytes mem pos (m + n) = bytes mem pos m ++ bytes mem (pos + m) n := by
  induction m generalizing pos with
  | zero => simp [bytes]
  | succ m ih =>
      rw [Nat.succ_add]
      simp only [bytes, ih, List.cons_append, Nat.add_assoc, Nat.add_comm 1 m]

theorem bytes_ext {mem mem' : Nat → UInt8} {pos pos' n : Nat}
    (h : ∀ k < n, mem (pos + k) = mem' (pos' + k)) : bytes mem pos n = bytes mem' pos' n := by
  induction n generalizing pos pos' with
  | zero => rfl
  | succ n ih =>
      simp only [bytes, List.cons.injEq]
      refine ⟨h 0 (by omega), ih fun k hk => ?_⟩
      simpa [Nat.add_assoc, Nat.add_comm 1] using h (k + 1) (by omega)

theorem clampBound_of_le {ssize : Nat} (h : ssize ≤ 513) : clampBound ssize = 513 - ssize := by
  unfold clampBound ibufSize
  omega

theorem receiveLength_of_fit {ssize n : Nat} (h : ssize + n ≤ 513) : receiveLength ssize n = n := by
  simp only [receiveLength, clampBound_of_le (show ssize ≤ 513 by omega)]
  split_ifs <;> omega

theorem receiveLength_of_lt {ssize n : Nat} (h : ssize ≤ 513) (hn : 513 < ssize + n) :
    receiveLength ssize n = 513 - ssize := by
  simp only [receiveLength, clampBound_of_le h]
  split_ifs <;> omega

theorem strlcpy_of_lt (dst : Nat → UInt8) {pos k : Nat} (src : List UInt8) (size : Nat)
    (h : k < pos) : strlcpy dst pos src size k = dst k := by
  induction src generalizing dst pos size with
  | nil => cases size <;> simp [strlcpy, Function.update_noteq (Nat.ne_of_lt h)]
  | cons c cs ih =>
      cases size with
      | zero => rfl
      | succ size =>
          simp only [strlcpy]
          split_ifs
          · exact Function.update_noteq (Nat.ne_of_lt h) _ _
          · rw [ih _ _ (by omega), Function.update_noteq (Nat.ne_of_lt h)]

theorem strlcpyCount_of_nul_free {src : List UInt8} {n : Nat} (hnul : 0 ∉ src)
    (h : n ≤ src.length) : strlcpyCount src (n + 1) = n := by
  induction src generalizing n with
  | nil => simp_all [strlcpyCount]
  | cons c cs ih =>
      simp only [List.mem_cons, not_or] at hnul
      cases n with
      | zero => simp [strlcpyCount]
      | succ n =>
          simp only [strlcpyCount, Ne.symm hnul.1, false_or, Nat.add_one_ne_zero, if_false]
          rw [ih hnul.2 (by simpa using h)]

theorem bytes_strlcpy (dst : Nat → UInt8) (pos : Nat) {src : List UInt8} {n : Nat}
    (hnul : 0 ∉ src) (h : n ≤ src.length) :
    bytes (strlcpy dst pos src (n + 1)) pos n = src.take n := by
  induction src generalizing dst pos n with
  | nil =>
      obtain rfl : n = 0 := by simpa using h
      rfl
  | cons c cs ih =>
      simp only [List.mem_cons, not_or] at hnul
      cases n with
      | zero => rfl
      | succ n =>
          simp only [strlcpy, Ne.symm hnul.1, false_or, Nat.add_one_ne_zero, if_false, bytes,
            List.take_succ_cons]
          rw [strlcpy_of_lt _ _ _ (by omega), ih _ _ hnul.2 (by simpa using h)]
          simp

theorem bytes_update_of_le (mem : Nat → UInt8) (p pos n : Nat) (v : UInt8) (h : pos + n ≤ p) :
    bytes (Function.update mem p v) pos n = bytes mem pos n :=
  bytes_ext fun k hk => Function.update_noteq (by omega) _ _

theorem bytes_memcpy (mem : Nat → UInt8) {len m n : Nat} (h : len + m ≤ n + 1) :
    bytes (memcpy mem 0 len (n + 1)) 0 m = bytes mem len m :=
  bytes_ext fun k hk => by simp only [memcpy]; rw [if_pos (by omega)]; simp

theorem bytes_strlcpy_append (ibuf : Nat → UInt8) (ssize : Nat) {chunk : List UInt8}
    (hnul : 0 ∉ chunk) :
    bytes (strlcpy ibuf ssize chunk (chunk.length + 1)) 0 (ssize + chunk.length) =
      bytes ibuf 0 ssize ++ chunk := by
  rw [bytes_add, Nat.zero_add, bytes_strlcpy _ _ hnul le_rfl, List.take_length]
  exact congrArg (· ++ chunk) (bytes_ext fun k hk => strlcpy_of_lt _ _ _ (by omega))

theorem findEol_eq (mem : Nat → UInt8) :
    ∀ cp n, findEol mem cp n = (crlfIndex (bytes mem cp n)).map (fun i => cp + i + 2)
  | _, 0 => rfl
  | _, 1 => rfl
  | cp, n + 2 => by
      simp only [findEol, bytes, crlfIndex]
      split_ifs
      · simp
      · rw [findEol_eq mem (cp + 1) (n + 1)]
        simp only [bytes, Option.map_map]
        congr 1
        funext i
        simp only [Function.comp]
        omega

theorem crlfIndex_add_two_le : ∀ {l : List UInt8} {i : Nat}, crlfIndex l = some i → i + 2 ≤ l.length
  | [], _, h => by simp [crlfIndex] at h
  | [_], _, h => by simp [crlfIndex] at h
  | a :: b :: rest, i, h => by
      simp only [crlfIndex] at h
      split_ifs at h
      · cases h; simp
      · obtain ⟨j, hj, rfl⟩ := Option.map_eq_some'.mp h
        have := crlfIndex_add_two_le hj
        simp only [List.length_cons] at this ⊢
        omega

theorem findEol_le {mem : Nat → UInt8} {n e : Nat} (h : findEol mem 0 n = some e) : e ≤ n := by
  rw [findEol_eq] at h
  obtain ⟨i, hi, rfl⟩ := Option.map_eq_some'.mp h
  have := crlfIndex_add_two_le hi
  simp only [length_bytes] at this
  omega

theorem javadReceive_ne_aborted (s : Instance) (chunk : List UInt8) :
    (javadReceive s chunk).2 ≠ .aborted := by
  simp only [javadReceive]
  split
  · simp
  · rename_i e he
    have := findEol_le he
    split_ifs with h1 h2
    · simp
    · simp
    · exact absurd (Nat.lt_of_le_of_ne this (Ne.symm h1)) h2

theorem scanReads_bounds (ibuf : Nat → UInt8) :
    ∀ cp n k, k ∈ scanReads ibuf cp n → cp ≤ k ∧ k < cp + n
  | _, 0, _, h => by simp [scanReads] at h
  | _, 1, _, h => by simp [scanReads] at h
  | cp, n + 2, k, h => by
      have ih := scanReads_bounds ibuf (cp + 1) (n + 1) k
      simp only [scanReads] at h
      split_ifs at h
      · simp only [List.mem_cons, List.mem_singleton, List.not_mem_nil, or_false] at h; omega
      · rcases List.mem_cons.mp h with rfl | h
        · omega
        rcases List.mem_cons.mp h with rfl | h
        · omega
        have := ih h; omega
      · rcases List.mem_cons.mp h with rfl | h
        · omega
        have := ih h; omega

theorem findEol_eq_some_iff (ibuf : Nat → UInt8) :
    ∀ cp n e, findEol ibuf cp n = some e ↔
      ∃ k, cp ≤ k ∧ e = k + 2 ∧ k + 1 < cp + n ∧ (ibuf k = 13 ∧ ibuf (k + 1) = 10) ∧
        ∀ j, cp ≤ j → j < k → ¬(ibuf j = 13 ∧ ibuf (j + 1) = 10)
  | _, 0, _ => ⟨fun h => (by cases h), fun ⟨_, h1, _, h2, _⟩ => by omega⟩
  | _, 1, _ => ⟨fun h => (by cases h), fun ⟨_, h1, _, h2, _⟩ => by omega⟩
  | cp, n + 2, e => by
      rw [findEol]
      split_ifs with h
      · constructor
        · rintro ⟨⟩
          exact ⟨cp, le_rfl, rfl, by omega, h, fun j h1 h2 => absurd h2 (Nat.not_lt.mpr h1)⟩
        · rintro ⟨k, hk, rfl, -, -, hj⟩
          obtain rfl : k = cp := by by_contra hne; exact hj cp le_rfl (by omega) h
          rfl
      · rw [findEol_eq_some_iff ibuf (cp + 1) (n + 1) e]
        constructor
        · rintro ⟨k, hk, rfl, hlt, hc, hj⟩
          refine ⟨k, by omega, rfl, by omega, hc, fun j h1 h2 => ?_⟩
          rcases Nat.eq_or_lt_of_le h1 with rfl | h1
          · exact h
          · exact hj j h1 h2
        · rintro ⟨k, hk, rfl, hlt, hc, hj⟩
          have hne : k ≠ cp := by rintro rfl; exact h hc
          exact ⟨k, by omega, rfl, by omega, hc, fun j h1 h2 => hj j (by omega) h2⟩

theorem findEol_eq_none_iff (ibuf : Nat → UInt8) :
    ∀ cp n, findEol ibuf cp n = none ↔
      ∀ k, cp ≤ k → k + 1 < cp + n → ¬(ibuf k = 13 ∧ ibuf (k + 1) = 10)
  | _, 0 => ⟨fun _ _ h1 h2 => by omega, fun _ => rfl⟩
  | _, 1 => ⟨fun _ _ h1 h2 => by omega, fun _ => rfl⟩
  | cp, n + 2 => by
      rw [findEol]
      split_ifs with h
      · simp only [reduceCtorEq, false_iff, not_forall, not_not]
        exact ⟨cp, le_rfl, by omega, h⟩
      · rw [findEol_eq_none_iff ibuf (cp + 1) (n + 1)]
        constructor
        · intro hk k h1 h2
          rcases Nat.eq_or_lt_of_le h1 with rfl | h1
          · exact h
          · exact hk k h1 (by omega)
        · exact fun hk k h1 h2 => hk k (by omega) (by omega)

theorem findEol_within_ssize (ibuf : Nat → UInt8) (ssize : Nat) :
    (∀ k ∈ scanReads ibuf 0 ssize, k < ssize) ∧
      (∀ e, findEol ibuf 0 ssize = some e ↔
        ∃ i, e = i + 2 ∧ i + 1 < ssize ∧ (ibuf i = 13 ∧ ibuf (i + 1) = 10) ∧
          ∀ j < i, ¬(ibuf j = 13 ∧ ibuf (j + 1) = 10)) ∧
      (findEol ibuf 0 ssize = none ↔ ∀ i, i + 1 < ssize → ¬(ibuf i = 13 ∧ ibuf (i + 1) = 10)) ∧
      (∀ e, findEol ibuf 0 ssize = some e → e ≤ ssize) ∧
      ∀ s chunk, (javadReceive s chunk).2 ≠ .aborted := by
  refine ⟨fun k hk => ?_, fun e => ?_, ?_, fun e => findEol_le, javadReceive_ne_aborted⟩
  · simpa using (scanReads_bounds ibuf 0 ssize k hk).2
  · simp only [findEol_eq_some_iff, Nat.zero_le, true_and, true_implies, Nat.zero_add]
  · simp only [findEol_eq_none_iff, Nat.zero_le, true_implies, Nat.zero_add]

theorem bytes_take (mem : Nat → UInt8) (pos : Nat) {m n : Nat} (h : m ≤ n) :
    (bytes mem pos n).take m = bytes mem pos m := by
  obtain ⟨k, rfl⟩ := Nat.exists_eq_add_of_le h
  rw [bytes_add, List.take_left' (length_bytes _ _ _)]

theorem bytes_drop (mem : Nat → UInt8) (pos : Nat) {m n : Nat} (h : m ≤ n) :
    (bytes mem pos n).drop m = bytes mem (pos + m) (n - m) := by
  obtain ⟨k, rfl⟩ := Nat.exists_eq_add_of_le h
  rw [bytes_add, List.drop_left' (length_bytes _ _ _), Nat.add_sub_cancel_left]

theorem javadReceive_frame (s : Instance) {chunk : List UInt8} (hnul : 0 ∉ chunk)
    (hfit : s.ssize + chunk.length ≤ 513) :
    buffered (javadReceive s chunk).1 = (frame (buffered s) chunk).1 ∧
      (javadReceive s chunk).2 = Received.ofLine (frame (buffered s) chunk).2 := by
  have happ : bytes (strlcpy s.ibuf s.ssize chunk (chunk.length + 1)) 0
      (s.ssize + chunk.length) = buffered s ++ chunk := bytes_strlcpy_append _ _ hnul
  simp only [javadReceive, receiveLength_of_fit hfit, findEol_eq, happ, frame]
  cases hc : crlfIndex (buffered s ++ chunk) with
  | none => exact ⟨happ, rfl⟩
  | some i =>
      have hi := crlfIndex_add_two_le hc
      simp only [buffered, List.length_append, length_bytes] at hi
      simp only [Option.map_some', Nat.zero_add, ← happ]
      split_ifs with h1 h2
      · refine ⟨?_, by rw [bytes_take _ _ hi]; rfl⟩
        simp [buffered, bytes, h1]
      · refine ⟨?_, by rw [bytes_take _ _ hi]; rfl⟩
        simp only [buffered]
        rw [bytes_memcpy _ (by omega), bytes_drop _ _ hi, Nat.zero_add]
      · omega

theorem strlcpy_take (dst : Nat → UInt8) (pos : Nat) (src : List UInt8) (k : Nat) :
    strlcpy dst pos src (k + 1) = strlcpy dst pos (src.take k) (k + 1) := by
  induction src generalizing dst pos k with
  | nil => simp
  | cons c cs ih =>
      cases k with
      | zero => simp [strlcpy]
      | succ k => by_cases hc : c = 0 <;> simp [strlcpy, hc, ih]

theorem crlfIndex_append : ∀ {l : List UInt8} {i : Nat} (r : List UInt8),
    crlfIndex l = some i → crlfIndex (l ++ r) = some i
  | [], _, _, h => by simp [crlfIndex] at h
  | [_], _, _, h => by simp [crlfIndex] at h
  | a :: b :: rest, i, r, h => by
      change crlfIndex (a :: b :: (rest ++ r)) = some i
      simp only [crlfIndex] at h ⊢
      split_ifs at h ⊢
      · exact h
      · obtain ⟨j, hj, rfl⟩ := Option.map_eq_some'.mp h
        rw [show b :: (rest ++ r) = (b :: rest) ++ r from rfl, crlfIndex_append r hj]
        rfl

theorem crlfIndex_eq_none : ∀ {l : List UInt8}, 13 ∉ l → crlfIndex l = none
  | [], _ => rfl
  | [_], _ => rfl
  | a :: b :: rest, h => by
      simp only [List.mem_cons, not_or] at h
      simp only [crlfIndex, Ne.symm h.1, false_and, if_false]
      rw [crlfIndex_eq_none (by simpa using h.2)]
      rfl

theorem crlfIndex_append_crlf_isSome : ∀ l : List UInt8, (crlfIndex (l ++ [13, 10])).isSome
  | [] => rfl
  | [a] => by simp [crlfIndex]
  | a :: b :: rest => by
      change (crlfIndex (a :: b :: (rest ++ [13, 10]))).isSome
      simp only [crlfIndex]
      split_ifs
      · rfl
      · simpa only [Option.isSome_map'] using crlfIndex_append_crlf_isSome (b :: rest)

theorem receiveLength_full (n : Nat) : receiveLength 513 n = 0 := by
  simp only [receiveLength, clampBound_of_le le_rfl]
  split_ifs <;> omega

theorem javadReceive_clamp (s : Instance) (chunk : List UInt8) (h : s.ssize ≤ 513)
    (hn : 513 < s.ssize + chunk.length) :
    javadReceive s chunk = javadReceive s (chunk.take (513 - s.ssize)) := by
  have hlen : (chunk.take (513 - s.ssize)).length = 513 - s.ssize := by
    simp only [List.length_take]; omega
  have h2 : receiveLength s.ssize (chunk.take (513 - s.ssize)).length = 513 - s.ssize := by
    rw [hlen]; exact receiveLength_of_fit (by omega)
  simp only [javadReceive]
  rw [receiveLength_of_lt h hn, h2, strlcpy_take s.ibuf s.ssize chunk (513 - s.ssize)]

theorem javadReceive_full (s : Instance) (chunk : List UInt8) (h : s.ssize = 513)
    (hline : crlfIndex (buffered s) = none) :
    javadReceive s chunk = ({ s with ibuf := Function.update s.ibuf 513 0 }, .pending) := by
  have hcpy : strlcpy s.ibuf 513 chunk 1 = Function.update s.ibuf 513 0 := by
    cases chunk <;> simp [strlcpy]
  have hbuf : bytes (Function.update s.ibuf 513 0) 0 513 = buffered s := by
    rw [buffered, h, bytes_update_of_le _ 513 0 513 _ le_rfl]
  simp only [javadReceive, h, receiveLength_full, hcpy, Nat.add_zero, findEol_eq, hbuf, hline,
    Option.map_none']

@[simp] theorem length_buffered (s : Instance) : (buffered s).length = s.ssize := length_bytes _ _ _

theorem buffered_of_ssize_zero {s : Instance} (hs : s.ssize = 0) : buffered s = [] := by
  simp [buffered, hs, bytes]

theorem javadReceive_no_cr (s : Instance) (chunk : List UInt8) (hnul : 0 ∉ chunk)
    (hfit : s.ssize + chunk.length ≤ 513) (hcr : 13 ∉ buffered s ++ chunk) :
    buffered (javadReceive s chunk).1 = buffered s ++ chunk ∧
      (javadReceive s chunk).2 = .pending := by
  have h := javadReceive_frame s hnul hfit
  rwa [frame, crlfIndex_eq_none hcr] at h

theorem javadReceive_writes_past_ibuf :
    (∃ a ∈ receiveAccesses emallocZero (List.replicate 512 65), a.write ∧ ibufSize < a.hi) ∧
      ibufSize - 1 < (javadReceive emallocZero (List.replicate 512 65)).1.ssize := by
  have hnul : (0 : UInt8) ∉ List.replicate 512 65 := by rw [List.mem_replicate]; decide
  have hlen : (List.replicate 512 (65 : UInt8)).length = 512 := List.length_replicate _ _
  refine ⟨⟨_, List.mem_cons_self _ _, ?_⟩, ?_⟩
  · simp only [receiveAccesses, hlen, emallocZero_ssize, receiveLength_of_fit (show 0 + 512 ≤ 513 by decide)]
    rw [strlcpyCount_of_nul_free hnul (by rw [hlen])]
    decide
  · have h := (javadReceive_no_cr emallocZero _ hnul (by rw [hlen]; decide)
      (by rw [buffered_of_ssize_zero emallocZero_ssize, List.nil_append, List.mem_replicate]; decide)).1
    have := congrArg List.length h
    rw [length_buffered, List.length_append, length_buffered, hlen] at this
    rw [this]
    decide

def isprint (c : Nat) : Bool := 32 ≤ c && c < 127

/-- How the printing loop writes one byte of the line. -/
def showByte (ch : UInt8) : List Char :=
  if ch = 13 then ['\\', 'r']
  else if ch = 10 then ['\\', 'n']
  else if !isprint ch.toNat then '\\' :: '0' :: Nat.toDigits 8 ch.toNat
  else [Char.ofNat ch.toNat]

def receiveTrace (ssize : Nat) (line : List UInt8) : String :=
  "javad_receive: " ++ toString ssize ++ " \"" ++ ⟨line.flatMap showByte⟩ ++ "\"\n"

def receiveStderr (s : Instance) (chunk : List UInt8) : String :=
  let len := receiveLength s.ssize chunk.length
  let ibuf := strlcpy s.ibuf s.ssize chunk (len + 1)
  let ssize := s.ssize + len
  match findEol ibuf 0 ssize with
  | none => ""
  | some eol =>
      receiveTrace ssize (bytes ibuf 0 eol) ++
        if eol ≤ ssize then ""
        else "jupiter_recv: ssize < len! (" ++ toString ssize ++ " < " ++ toString eol ++ ")\n"

theorem isprint_digitChar {d : Nat} (h : d < 10) : isprint (Nat.digitChar d).toNat = true := by
  have : ∀ d < 10, isprint (Nat.digitChar d).toNat = true := by decide
  exact this d h

theorem isprint_toDigitsCore {base : Nat} (hb : 0 < base ∧ base ≤ 10) :
    ∀ (fuel n : Nat) (ds : List Char), (∀ c ∈ ds, isprint c.toNat) →
      ∀ c ∈ Nat.toDigitsCore base fuel n ds, isprint c.toNat
  | 0, _, _, h => h
  | fuel + 1, n, ds, h => by
      have hd : ∀ c ∈ Nat.digitChar (n % base) :: ds, isprint c.toNat := by
        intro c hc
        rcases List.mem_cons.mp hc with rfl | hc
        · exact isprint_digitChar (Nat.lt_of_lt_of_le (Nat.mod_lt _ hb.1) hb.2)
        · exact h c hc
      have hstep : Nat.toDigitsCore base (fuel + 1) n ds =
          if n / base = 0 then Nat.digitChar (n % base) :: ds
          else Nat.toDigitsCore base fuel (n / base) (Nat.digitChar (n % base) :: ds) := rfl
      rw [hstep]
      split_ifs
      · exact hd
      · exact isprint_toDigitsCore hb fuel _ _ hd

theorem toNat_charOfNat {n : Nat} (h : n < 55296) : (Char.ofNat n).toNat = n := by
  unfold Char.ofNat
  rw [dif_pos (Or.inl h)]
  rfl

theorem isprint_showByte (ch : UInt8) : ∀ c ∈ showByte ch, isprint c.toNat := by
  unfold showByte
  split_ifs with h13 h10 hp
  · decide
  · decide
  · intro c hc
    rcases List.mem_cons.mp hc with rfl | hc
    · decide
    rcases List.mem_cons.mp hc with rfl | hc
    · decide
    · exact isprint_toDigitsCore ⟨by decide, by decide⟩ _ _ [] (fun _ h => (by cases h)) c hc
  · intro c hc
    rw [List.mem_singleton.mp hc, toNat_charOfNat (by have := Basic.toNat_lt_256 ch; omega)]
    simpa using hp

theorem receiveTrace_one_line (ssize : Nat) (line : List UInt8) :
    ∃ body, (receiveTrace ssize line).data = body ++ ['\n'] ∧ ∀ c ∈ body, isprint c.toNat := by
  refine ⟨"javad_receive: ".data ++ (toString ssize).data ++ " \"".data ++ line.flatMap showByte ++
    ['"'], ?_, fun c hc => ?_⟩
  · simp only [receiveTrace, String.data_append, List.append_assoc]
    rfl
  · simp only [List.mem_append, List.mem_singleton] at hc
    rcases hc with (((hc | hc) | hc) | hc) | rfl
    · revert c; decide
    · exact isprint_toDigitsCore ⟨by decide, by decide⟩ (ssize + 1) ssize [] (fun _ h => (by cases h)) c hc
    · revert c; decide
    · obtain ⟨b, -, hb⟩ := List.mem_flatMap.mp hc
      exact isprint_showByte b c hb
    · decide

theorem receiveStderr_of_line {s : Instance} {chunk l : List UInt8}
    (h : (javadReceive s chunk).2 = .line l) :
    receiveStderr s chunk = receiveTrace (s.ssize + receiveLength s.ssize chunk.length) l := by
  simp only [javadReceive] at h
  unfold receiveStderr
  dsimp only
  cases heol : findEol (strlcpy s.ibuf s.ssize chunk (receiveLength s.ssize chunk.length + 1)) 0
      (s.ssize + receiveLength s.ssize chunk.length) with
  | none => rw [heol] at h; cases h
  | some eol =>
      rw [heol] at h
      dsimp only at h ⊢
      rw [if_pos (findEol_le heol), String.append_empty]
      split_ifs at h <;> cases h <;> rfl

theorem receiveStderr_of_pending {s : Instance} {chunk : List UInt8}
    (h : (javadReceive s chunk).2 = .pending) : receiveStderr s chunk = "" := by
  simp only [javadReceive] at h
  unfold receiveStderr
  dsimp only
  cases heol : findEol (strlcpy s.ibuf s.ssize chunk (receiveLength s.ssize chunk.length + 1)) 0
      (s.ssize + receiveLength s.ssize chunk.length) with
  | none => rfl
  | some eol =>
      rw [heol] at h
      dsimp only at h
      split_ifs at h

theorem receiveStderr_one_line (s : Instance) (chunk : List UInt8) :
    ((javadReceive s chunk).2 = .pending ∧ receiveStderr s chunk = "" ∨
      ∃ l, (javadReceive s chunk).2 = .line l ∧
        receiveStderr s chunk = receiveTrace (s.ssize + receiveLength s.ssize chunk.length) l) ∧
    (receiveStderr s chunk = "" ∨
      ∃ body, (receiveStderr s chunk).data = body ++ ['\n'] ∧ ∀ c ∈ body, isprint c.toNat) := by
  refine ⟨?_, ?_⟩
  · cases h : (javadReceive s chunk).2 with
    | pending => exact .inl ⟨rfl, receiveStderr_of_pending h⟩
    | line l => exact .inr ⟨l, rfl, receiveStderr_of_line h⟩
    | aborted => exact absurd h (javadReceive_ne_aborted s chunk)
  · unfold receiveStderr
    dsimp only
    split
    · exact .inl rfl
    · rename_i eol heol
      rw [if_pos (findEol_le heol), String.append_empty]
      exact .inr (receiveTrace_one_line _ _)

end RefclockJavad.LineFramer
