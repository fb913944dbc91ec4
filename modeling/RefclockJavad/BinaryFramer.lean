import RefclockJavad.Basic
import Mathlib.Algebra.Order.Ring.Nat

/-!
The binary framer `javad_recv` (under `notdef`).  `struct jheader` is not in
the source: its six-word layout is the spec's wire format.
-/

namespace RefclockJavad.BinaryFramer

open RefclockJavad.Basic

def jheaderSize : Nat := 12

def loadShort (order : ByteOrder) (buf : List UInt8) (i : Nat) : Nat :=
  rawShort order (buf.getD i 0) (buf.getD (i + 1) 0)

def loadShorts (order : ByteOrder) (buf : List UInt8) (i : Nat) : Nat → List Nat
  | 0 => []
  | k + 1 => loadShort order buf i :: loadShorts order buf (i + 2) k

/-- `javad_cksum`: the `getshort` values summed in a `u_short`, then `~sum + 1`. -/
def javadCksum (order : ByteOrder) (ws : List Nat) : Nat :=
  let sum := ws.foldl (fun sum x => (sum + getshort order x) % 65536) 0
  (65536 - sum) % 65536

/-- The resync loop: one byte past a byte that is not the sync's low byte, two
bytes past a low byte not followed by the high byte. -/
def resyncLoop (sync : Nat) : List UInt8 → List UInt8
  | b0 :: b1 :: rest =>
      if b0.toNat ≠ sync % 256 then resyncLoop sync (b1 :: rest)
      else if b1.toNat = sync / 256 % 256 then b0 :: b1 :: rest
      else resyncLoop sync rest
  | bs => bs

def checkFrame (order : ByteOrder) (buf : List UInt8) : Nat × List UInt8 :=
  if javadCksum order (loadShorts order buf 0 (jheaderSize / 2 - 1)) ≠
      getshort order (loadShort order buf 10) then (0, [])
  else
    let len := getshort order (loadShort order buf 4)
    if 0 < len then
      let n := (len + 1) * 2
      if buf.length < jheaderSize + n then (0, buf)
      else if javadCksum order (loadShorts order buf jheaderSize len) ≠
          getshort order (loadShort order buf (jheaderSize + 2 * len)) then (0, [])
      else (jheaderSize + n, buf)
    else (jheaderSize, buf)

/-- `javad_recv`; after a resync the sync word is compared as loaded, without
`getshort`. -/
def javadRecv (order : ByteOrder) (sync : Nat) (buf : List UInt8) : Nat × List UInt8 :=
  if buf.length < jheaderSize then (0, buf)
  else if getshort order (loadShort order buf 0) ≠ sync then
    let buf := resyncLoop sync buf
    if buf.length < jheaderSize ∨ loadShort order buf 0 ≠ sync then (0, buf)
    else checkFrame order buf
  else checkFrame order buf

def wireWord (buf : List UInt8) (i : Nat) : Nat :=
  (buf.getD i 0).toNat + 256 * (buf.getD (i + 1) 0).toNat

def wireWords (buf : List UInt8) (i : Nat) : Nat → List Nat
  | 0 => []
  | k + 1 => wireWord buf i :: wireWords buf (i + 2) k

def cksum (ws : List Nat) : Nat := (65536 - ws.sum % 65536) % 65536

/-- The byte length of the well-formed frame at the front of `buf`, if any. -/
def frameLength (sync : Nat) (buf : List UInt8) : Option Nat :=
  if jheaderSize ≤ buf.length ∧ wireWord buf 0 = sync ∧
      wireWord buf 10 = cksum (wireWords buf 0 5) then
    if wireWord buf 4 = 0 then some jheaderSize
    else if jheaderSize + 2 * (wireWord buf 4 + 1) ≤ buf.length ∧
        wireWord buf (jheaderSize + 2 * wireWord buf 4) =
          cksum (wireWords buf jheaderSize (wireWord buf 4)) then
      some (jheaderSize + 2 * (wireWord buf 4 + 1))
    else none
  else none

def afterResync (order : ByteOrder) (sync : Nat) (buf : List UInt8) : List UInt8 :=
  if buf.length < jheaderSize then buf
  else if getshort order (loadShort order buf 0) ≠ sync then resyncLoop sync buf
  else buf

@[simp] theorem getshort_loadShort (order : ByteOrder) (buf : List UInt8) (i : Nat) :
    getshort order (loadShort order buf i) = wireWord buf i :=
  getshort_rawShort _ _ _

theorem loadShort_little (buf : List UInt8) (i : Nat) :
    loadShort .little buf i = wireWord buf i := rfl

theorem loadShort_big (buf : List UInt8) (i : Nat) :
    loadShort .big buf i = 256 * (buf.getD i 0).toNat + (buf.getD (i + 1) 0).toNat := rfl

theorem foldl_sum_mod (g : Nat → Nat) (ws : List Nat) {a : Nat} (ha : a < 65536) :
    ws.foldl (fun sum x => (sum + g x) % 65536) a = (a + (ws.map g).sum) % 65536 := by
  induction ws generalizing a with
  | nil => simp [Nat.mod_eq_of_lt ha]
  | cons w ws ih =>
      simp only [List.foldl_cons, ih (Nat.mod_lt _ (by decide)), List.map_cons, List.sum_cons]
      omega

theorem map_getshort_loadShorts (order : ByteOrder) (buf : List UInt8) :
    ∀ i k, (loadShorts order buf i k).map (getshort order) = wireWords buf i k
  | _, 0 => rfl
  | i, k + 1 => by
      simp only [loadShorts, wireWords, List.map_cons, getshort_loadShort,
        map_getshort_loadShorts order buf (i + 2) k]

@[simp] theorem javadCksum_loadShorts (order : ByteOrder) (buf : List UInt8) (i k : Nat) :
    javadCksum order (loadShorts order buf i k) = cksum (wireWords buf i k) := by
  simp only [javadCksum, cksum, foldl_sum_mod _ _ (by decide : 0 < 65536),
    map_getshort_loadShorts, Nat.zero_add]

theorem wireWord_lt (buf : List UInt8) (i : Nat) : wireWord buf i < 65536 := by
  have := toNat_lt_256 (buf.getD i 0)
  have := toNat_lt_256 (buf.getD (i + 1) 0)
  simp only [wireWord]; omega

theorem checkFrame_fst (order : ByteOrder) {sync : Nat} {buf : List UInt8}
    (hlen : jheaderSize ≤ buf.length) (hsync : wireWord buf 0 = sync) :
    (checkFrame order buf).1 = (frameLength sync buf).getD 0 := by
  have h5 : jheaderSize / 2 - 1 = 5 := rfl
  simp only [checkFrame, frameLength, getshort_loadShort, javadCksum_loadShorts, h5, hlen, hsync,
    true_and, Nat.mul_comm _ 2]
  by_cases hh : cksum (wireWords buf 0 5) = wireWord buf 10
  · by_cases h0 : wireWord buf 4 = 0
    · simp [hh, h0]
    · simp only [hh, h0, Nat.pos_of_ne_zero h0, ne_eq, not_true_eq_false, if_true, if_false,
        Nat.not_lt, true_and]
      split_ifs <;> first | rfl | omega
  · simp [hh, Ne.symm hh]

theorem checkFrame_snd_cases (order : ByteOrder) (buf : List UInt8) :
    (checkFrame order buf).2 = buf ∨ checkFrame order buf = (0, []) := by
  simp only [checkFrame]
  split_ifs <;> simp

theorem checkFrame_snd_suffix (order : ByteOrder) (buf : List UInt8) :
    (checkFrame order buf).2 <:+ buf := by
  rcases checkFrame_snd_cases order buf with h | h
  · rw [h]
  · rw [h]; exact List.nil_suffix

theorem frameLength_eq_some {sync m : Nat} {buf : List UInt8} (h : frameLength sync buf = some m) :
    (jheaderSize ≤ buf.length ∧ wireWord buf 0 = sync ∧
        wireWord buf 10 = cksum (wireWords buf 0 5)) ∧
      (wireWord buf 4 = 0 ∧ m = jheaderSize ∨ 0 < wireWord buf 4 ∧
        jheaderSize + 2 * (wireWord buf 4 + 1) ≤ buf.length ∧
        wireWord buf (jheaderSize + 2 * wireWord buf 4) =
          cksum (wireWords buf jheaderSize (wireWord buf 4)) ∧
        m = jheaderSize + 2 * (wireWord buf 4 + 1)) := by
  unfold frameLength at h
  split_ifs at h with h1 h2 h3 <;> cases h
  · exact ⟨h1, .inl ⟨h2, rfl⟩⟩
  · exact ⟨h1, .inr ⟨Nat.pos_of_ne_zero h2, h3.1, h3.2, rfl⟩⟩

theorem frameLength_head {sync m : Nat} {buf : List UInt8} (h : frameLength sync buf = some m) :
    jheaderSize ≤ buf.length ∧ wireWord buf 0 = sync :=
  ⟨(frameLength_eq_some h).1.1, (frameLength_eq_some h).1.2.1⟩

theorem frameLength_pos {sync m : Nat} {buf : List UInt8} (h : frameLength sync buf = some m) :
    0 < m := by
  rcases (frameLength_eq_some h).2 with ⟨_, rfl⟩ | ⟨_, _, _, rfl⟩
  · decide
  · exact Nat.lt_of_lt_of_le (by decide) (Nat.le_add_right _ _)

theorem checkFrame_of_frameLength (order : ByteOrder) {sync m : Nat} {buf : List UInt8}
    (h : frameLength sync buf = some m) : checkFrame order buf = (m, buf) := by
  obtain ⟨hlen, hsync⟩ := frameLength_head h
  have h1 : (checkFrame order buf).1 = m := by rw [checkFrame_fst order hlen hsync, h]; rfl
  refine Prod.ext h1 ((checkFrame_snd_cases order buf).resolve_right fun h0 => ?_)
  rw [h0] at h1
  exact absurd h1 (Nat.ne_of_lt (frameLength_pos h))

theorem frameLength_of_short {sync : Nat} {buf : List UInt8} (h : buf.length < jheaderSize) :
    frameLength sync buf = none := by
  simp [frameLength, Nat.not_le.mpr h]

theorem frameLength_of_head_ne {sync : Nat} {buf : List UInt8} (h : wireWord buf 0 ≠ sync) :
    frameLength sync buf = none := by
  simp [frameLength, h]

theorem resyncLoop_suffix (sync : Nat) (l : List UInt8) : resyncLoop sync l <:+ l := by
  induction l using resyncLoop.induct sync with
  | case1 b0 b1 rest h ih =>
      rw [resyncLoop, if_pos h]
      exact ih.trans (List.suffix_cons _ _)
  | case2 b0 b1 rest h hstop =>
      rw [resyncLoop, if_neg h, if_pos hstop]
  | case3 b0 b1 rest h hstep ih =>
      rw [resyncLoop, if_neg h, if_neg hstep]
      exact ih.trans ((List.suffix_cons _ _).trans (List.suffix_cons _ _))
  | case4 bs h => rw [resyncLoop.eq_2 sync bs h]

theorem javadRecv_frameLength (order : ByteOrder) (sync : Nat) (buf : List UInt8)
    (h : order = .little ∨ wireWord buf 0 = sync) :
    (javadRecv order sync buf).1 = (frameLength sync (afterResync order sync buf)).getD 0 := by
  simp only [javadRecv, afterResync, getshort_loadShort]
  by_cases hl : buf.length < jheaderSize
  · simp [hl, frameLength_of_short hl]
  by_cases hs : wireWord buf 0 = sync
  · simp only [hl, hs, if_false, ne_eq, not_true_eq_false]
    exact checkFrame_fst order (Nat.not_lt.mp hl) hs
  · obtain rfl : order = .little := h.resolve_right hs
    simp only [hl, hs, if_false, if_true, ne_eq, not_false_eq_true, loadShort_little]
    split_ifs with hc
    · rcases hc with hc | hc
      · simp [frameLength_of_short hc]
      · simp [frameLength_of_head_ne hc]
    · simp only [not_or, Nat.not_lt, not_not] at hc
      exact checkFrame_fst _ hc.1 hc.2

theorem javadRecv_frameLength_resynced :
    (javadRecv .little 33279 [0, 255, 129, 0, 0, 0, 0, 0, 0, 0, 0, 1, 126]).1 =
      (frameLength 33279
        (afterResync .little 33279 [0, 255, 129, 0, 0, 0, 0, 0, 0, 0, 0, 1, 126])).getD 0 :=
  javadRecv_frameLength .little 33279 _ (Or.inl rfl)

theorem javadRecv_big_defers_resynced_frame (sync : Nat)
    (hne : sync % 256 ≠ sync / 256) (x : UInt8) (hx : x.toNat ≠ sync % 256) (f : List UInt8)
    (m : Nat) (hf : frameLength sync f = some m) :
    afterResync .big sync (x :: f) = f ∧ javadRecv .big sync (x :: f) = (0, f) ∧
      javadRecv .big sync f = (m, f) := by
  obtain ⟨hlen, hhead⟩ := frameLength_head hf
  obtain ⟨b0, b1, rest, rfl⟩ : ∃ b0 b1 rest, f = b0 :: b1 :: rest := by
    match f, hlen with
    | b0 :: b1 :: rest, _ => exact ⟨b0, b1, rest, rfl⟩
  have h0 := toNat_lt_256 b0
  have h1 := toNat_lt_256 b1
  have hx' := toNat_lt_256 x
  simp only [wireWord, List.getD_cons_zero, List.getD_cons_succ] at hhead
  have hresync : resyncLoop sync (x :: b0 :: b1 :: rest) = b0 :: b1 :: rest := by
    rw [resyncLoop, if_pos hx, resyncLoop, if_neg (by omega), if_pos (by omega)]
  have hhd : getshort .big (loadShort .big (x :: b0 :: b1 :: rest) 0) ≠ sync := by
    simp only [getshort_loadShort, wireWord, List.getD_cons_zero, List.getD_cons_succ]
    omega
  have hlen' : ¬ (x :: b0 :: b1 :: rest).length < jheaderSize := by
    simp only [List.length_cons] at hlen ⊢; omega
  have hraw : loadShort .big (b0 :: b1 :: rest) 0 ≠ sync := by
    simp only [loadShort_big, List.getD_cons_zero, List.getD_cons_succ]; omega
  have hsync' : getshort .big (loadShort .big (b0 :: b1 :: rest) 0) = sync := by
    simp only [getshort_loadShort, wireWord, List.getD_cons_zero, List.getD_cons_succ]; omega
  refine ⟨?_, ?_, ?_⟩
  · simp only [afterResync, hlen', hhd, hresync, if_false, ne_eq, not_false_eq_true, if_true]
  · simp only [javadRecv, hlen', hhd, hresync, hraw, if_false, ne_eq, not_false_eq_true, if_true,
      or_true]
  · simp only [javadRecv, Nat.not_lt.mpr hlen, hsync', if_false, ne_eq, not_true_eq_false]
    exact checkFrame_of_frameLength _ hf

theorem javadRecv_big_defers_resynced_frame_81ff :
    afterResync .big 33279 [0, 255, 129, 0, 0, 0, 0, 0, 0, 0, 0, 1, 126] =
        [255, 129, 0, 0, 0, 0, 0, 0, 0, 0, 1, 126] ∧
      javadRecv .big 33279 [0, 255, 129, 0, 0, 0, 0, 0, 0, 0, 0, 1, 126] =
        (0, [255, 129, 0, 0, 0, 0, 0, 0, 0, 0, 1, 126]) ∧
      javadRecv .big 33279 [255, 129, 0, 0, 0, 0, 0, 0, 0, 0, 1, 126] =
        (12, [255, 129, 0, 0, 0, 0, 0, 0, 0, 0, 1, 126]) :=
  javadRecv_big_defers_resynced_frame 33279 (by decide) 0 (by decide) _ 12 (by decide)

theorem resyncLoop_replicate {sync : Nat} {lo : UInt8} (hlo : lo.toNat = sync % 256)
    (hhi : lo.toNat ≠ sync / 256 % 256) (k : Nat) :
    resyncLoop sync (List.replicate (2 * k) lo) = [] := by
  induction k with
  | zero => rfl
  | succ k ih =>
      rw [show 2 * (k + 1) = 2 * k + 1 + 1 by omega, List.replicate_succ, List.replicate_succ,
        resyncLoop, if_neg (not_not.mpr hlo), if_neg hhi, ih]

theorem javadRecv_skips_sync (order : ByteOrder) (sync : Nat) (hne : sync % 256 ≠ sync / 256 % 256)
    (lo hi : UInt8) (hlo : lo.toNat = sync % 256) (hhi : hi.toNat = sync / 256 % 256)
    (rest : List UInt8) (hrest : 9 ≤ rest.length) (k : Nat) (hk : 6 ≤ k) :
    (javadRecv order sync (lo :: lo :: hi :: rest)).2 <:+ hi :: rest ∧
      javadRecv order sync (List.replicate (2 * k) lo) = (0, []) := by
  have hl := toNat_lt_256 lo
  have hhd : ∀ l, getshort order (loadShort order (lo :: lo :: l) 0) ≠ sync := by
    intro l
    simp only [getshort_loadShort, wireWord, List.getD_cons_zero, List.getD_cons_succ]
    omega
  constructor
  · have hlen : ¬ (lo :: lo :: hi :: rest).length < jheaderSize := by
      simp only [List.length_cons]; show ¬ _ < 12; omega
    have hskip : resyncLoop sync (lo :: lo :: hi :: rest) = resyncLoop sync (hi :: rest) := by
      rw [resyncLoop, if_neg (not_not.mpr hlo), if_neg (by omega)]
    simp only [javadRecv, hlen, hhd, hskip, if_false, ne_eq, not_false_eq_true, if_true]
    split_ifs
    · exact resyncLoop_suffix _ _
    · exact (checkFrame_snd_suffix _ _).trans (resyncLoop_suffix _ _)
  · obtain ⟨j, rfl⟩ : ∃ j, k = j + 1 := ⟨k - 1, by omega⟩
    have hlen : ¬ (List.replicate (2 * (j + 1)) lo).length < jheaderSize := by
      simp only [List.length_replicate]; show ¬ _ < 12; omega
    have hrep : List.replicate (2 * (j + 1)) lo = lo :: lo :: List.replicate (2 * j) lo := by
      rw [show 2 * (j + 1) = 2 * j + 1 + 1 by omega, List.replicate_succ, List.replicate_succ]
    simp only [javadRecv, hlen, if_false]
    rw [hrep, if_pos (hhd _), ← hrep, resyncLoop_replicate hlo (by omega)]
    rfl

theorem javadRecv_skips_sync_81ff :
    (javadRecv .little 33279 (255 :: 255 :: 129 :: List.replicate 9 0)).2 <:+
        129 :: List.replicate 9 0 ∧
      javadRecv .little 33279 (List.replicate (2 * 6) 255) = (0, []) :=
  javadRecv_skips_sync .little 33279 (by decide) 255 129 rfl rfl _ (by simp) 6 (by decide)

end RefclockJavad.BinaryFramer
