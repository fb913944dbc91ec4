import RefclockJavad.BinaryFramer
import RefclockJavad.LineFramer
import Mathlib.Algebra.BigOperators.Group.List
import Mathlib.Data.List.GetD

namespace RefclockJavad.FrameChecks

open RefclockJavad.Basic
open RefclockJavad.BinaryFramer
open RefclockJavad.LineFramer (ibufSize)

theorem javadCksum_eq_cksum (order : ByteOrder) (ws : List Nat) :
    javadCksum order ws = cksum (ws.map (getshort order)) := by
  simp only [javadCksum, cksum, foldl_sum_mod _ _ (by decide : 0 < 65536), Nat.zero_add]

theorem cksum_lt (ws : List Nat) : cksum ws < 65536 := Nat.mod_lt _ (by decide)

theorem cksum_eq_iff (ws : List Nat) {c : Nat} (hc : c < 65536) :
    cksum ws = c ↔ (ws.sum + c) % 65536 = 0 := by
  unfold cksum; omega

theorem cksum_eq_zero_iff (ws : List Nat) : cksum ws = 0 ↔ ws.sum % 65536 = 0 := by
  unfold cksum; omega

theorem javadCksum_eq_getshort_iff (order : ByteOrder) (ws : List Nat) (c : Nat) :
    (javadCksum order ws = getshort order c ↔ javadCksum order (ws ++ [c]) = 0) ∧
      javadCksum order (ws ++ [putshort order (javadCksum order ws)]) = 0 := by
  have key : ∀ c, javadCksum order ws = getshort order c ↔ javadCksum order (ws ++ [c]) = 0 := by
    intro c
    rw [javadCksum_eq_cksum, javadCksum_eq_cksum, cksum_eq_iff _ (getshort_lt _ _),
      List.map_append, cksum_eq_zero_iff, List.sum_append, List.map_singleton, List.sum_cons,
      List.sum_nil, Nat.add_zero]
  refine ⟨key c, (key _).mp ?_⟩
  rw [getshort_putshort _ (by rw [javadCksum_eq_cksum]; exact cksum_lt _)]

section Corrupt

variable {buf : List UInt8} {p : Nat} (hp : p < buf.length) (b : UInt8)
include hp

theorem getD_set (i : Nat) : (buf.set p b).getD i 0 = if i = p then b else buf.getD i 0 := by
  rw [List.getD_eq_getElem?_getD, List.getElem?_set]
  by_cases h : i = p
  · subst h; simp [hp]
  · rw [if_neg (Ne.symm h), if_neg h, List.getD_eq_getElem?_getD]

theorem wireWord_set_of_ne (i : Nat) (h0 : i ≠ p) (h1 : i + 1 ≠ p) :
    wireWord (buf.set p b) i = wireWord buf i := by
  simp only [wireWord, getD_set hp, if_neg h0, if_neg h1]

theorem wireWords_set_of_outside (i k : Nat) (h : p < i ∨ i + 2 * k ≤ p) :
    wireWords (buf.set p b) i k = wireWords buf i k := by
  induction k generalizing i with
  | zero => rfl
  | succ k ih =>
      simp only [wireWords, wireWord_set_of_ne hp b i (by omega) (by omega),
        ih (i + 2) (by omega)]

theorem wireWords_sum_set (i k : Nat) (h1 : i ≤ p) (h2 : p < i + 2 * k) :
    ((wireWords (buf.set p b) i k).sum : Int) =
        (wireWords buf i k).sum + ((b.toNat : Int) - (buf.getD p 0).toNat) ∨
      ((wireWords (buf.set p b) i k).sum : Int) =
        (wireWords buf i k).sum + 256 * ((b.toNat : Int) - (buf.getD p 0).toNat) := by
  induction k generalizing i with
  | zero => omega
  | succ k ih =>
      simp only [wireWords, List.sum_cons, Nat.cast_add]
      by_cases hi : p < i + 2
      · rw [wireWords_set_of_outside hp b (i + 2) k (Or.inl hi)]
        simp only [wireWord, getD_set hp]
        split_ifs <;> subst_vars <;> omega
      · rw [wireWord_set_of_ne hp b _ (by omega) (by omega)]
        rcases ih (i + 2) (by omega) (by omega) with h | h
        · left; omega
        · right; omega

end Corrupt

theorem wireWords_succ (buf : List UInt8) (i k : Nat) :
    wireWords buf i (k + 1) = wireWords buf i k ++ [wireWord buf (i + 2 * k)] := by
  induction k generalizing i with
  | zero => rfl
  | succ k ih =>
      rw [wireWords, ih (i + 2), wireWords, List.cons_append,
        show i + 2 + 2 * k = i + 2 * (k + 1) by omega]

theorem cksum_wireWords_iff (buf : List UInt8) (i k : Nat) :
    cksum (wireWords buf i k) = wireWord buf (i + 2 * k) ↔
      (wireWords buf i (k + 1)).sum % 65536 = 0 := by
  rw [cksum_eq_iff _ (wireWord_lt _ _), wireWords_succ, List.sum_append, List.sum_cons,
    List.sum_nil, Nat.add_zero]

theorem cksum_wireWords_set {buf : List UInt8} {p : Nat} (hp : p < buf.length) {b : UInt8}
    (hb : b ≠ buf.getD p 0) (i k : Nat) (h1 : i ≤ p) (h2 : p < i + 2 * (k + 1))
    (hok : cksum (wireWords buf i k) = wireWord buf (i + 2 * k)) :
    cksum (wireWords (buf.set p b) i k) ≠ wireWord (buf.set p b) (i + 2 * k) := by
  rw [cksum_wireWords_iff] at hok
  rw [ne_eq, cksum_wireWords_iff]
  have hne : b.toNat ≠ (buf.getD p 0).toNat := fun h => hb (UInt8.toNat.inj h)
  have := toNat_lt_256 b
  have := toNat_lt_256 (buf.getD p 0)
  rcases wireWords_sum_set hp b i (k + 1) h1 h2 with h | h <;> omega

theorem checkFrame_wire (order : ByteOrder) (buf : List UInt8) :
    checkFrame order buf =
      if cksum (wireWords buf 0 5) ≠ wireWord buf 10 then (0, [])
      else if 0 < wireWord buf 4 then
        if buf.length < jheaderSize + (wireWord buf 4 + 1) * 2 then (0, buf)
        else if cksum (wireWords buf jheaderSize (wireWord buf 4)) ≠
            wireWord buf (jheaderSize + 2 * wireWord buf 4) then (0, [])
        else (jheaderSize + (wireWord buf 4 + 1) * 2, buf)
      else (jheaderSize, buf) := by
  simp only [checkFrame, getshort_loadShort, javadCksum_loadShorts]
  rfl

theorem javadRecv_of_head (order : ByteOrder) {sync : Nat} {buf : List UInt8}
    (hlen : jheaderSize ≤ buf.length) (hsync : wireWord buf 0 = sync) :
    javadRecv order sync buf = checkFrame order buf := by
  simp only [javadRecv, getshort_loadShort, hsync, Nat.not_lt.mpr hlen, if_false, ne_eq,
    not_true_eq_false]

theorem javadRecv_flushes_corrupted_frame (order : ByteOrder) (sync : Nat) (buf : List UInt8)
    (m : Nat) (hf : frameLength sync buf = some m) (p : Nat) (hp2 : 2 ≤ p) (hpm : p < m)
    (b : UInt8) (hb : b ≠ buf.getD p 0) :
    javadRecv order sync (buf.set p b) = (0, []) := by
  obtain ⟨⟨hlen, hsync, hhdr⟩, hm⟩ := frameLength_eq_some hf
  have hj : jheaderSize = 12 := rfl
  have hp : p < buf.length := by omega
  have hsync' : wireWord (buf.set p b) 0 = sync := by
    rw [wireWord_set_of_ne hp b _ (by omega) (by omega), hsync]
  rw [javadRecv_of_head order (by rwa [List.length_set]) hsync', checkFrame_wire]
  by_cases hhead : p < jheaderSize
  · have := cksum_wireWords_set hp hb 0 5 (by omega) hhead hhdr.symm
    rw [if_pos this]
  · have h4 : wireWord (buf.set p b) 4 = wireWord buf 4 :=
      wireWord_set_of_ne hp b _ (by omega) (by omega)
    have h10 : wireWord (buf.set p b) 10 = wireWord buf 10 :=
      wireWord_set_of_ne hp b _ (by omega) (by omega)
    rw [h4, h10, wireWords_set_of_outside hp b 0 5 (.inr (by omega)),
      List.length_set]
    obtain ⟨hL, hroom, hpay, rfl⟩ := hm.resolve_left fun h => hhead (h.2 ▸ hpm)
    have := cksum_wireWords_set hp hb jheaderSize (wireWord buf 4)
      (Nat.not_lt.mp hhead) hpm hpay.symm
    rw [if_neg (not_not.mpr hhdr.symm), if_pos hL, if_neg (by omega), if_pos this]

theorem javadRecv_flushes_corrupted_frame_len :
    javadRecv .big 33279 ([255, 129, 0, 0, 0, 0, 0, 0, 0, 0, 1, 126].set 4 1) = (0, []) :=
  javadRecv_flushes_corrupted_frame .big 33279 _ 12 (by decide) 4 (by decide) (by decide) 1
    (by decide)

theorem wireWord_append (buf more : List UInt8) (i : Nat) (h : i + 2 ≤ buf.length) :
    wireWord (buf ++ more) i = wireWord buf i := by
  simp only [wireWord, List.getD_append _ _ _ _ (show i < buf.length by omega),
    List.getD_append _ _ _ _ (show i + 1 < buf.length by omega)]

theorem wireWords_append (buf more : List UInt8) (i k : Nat) (h : i + 2 * k ≤ buf.length) :
    wireWords (buf ++ more) i k = wireWords buf i k := by
  induction k generalizing i with
  | zero => rfl
  | succ k ih => simp only [wireWords, wireWord_append buf more i (by omega), ih (i + 2) (by omega)]

theorem javadRecv_waits_on_oversized_header (order : ByteOrder) (sync : Nat) (buf : List UInt8)
    (hlen : jheaderSize ≤ buf.length) (hsync : wireWord buf 0 = sync)
    (hhdr : wireWord buf 10 = cksum (wireWords buf 0 5))
    (hbig : ibufSize < jheaderSize + 2 * (wireWord buf 4 + 1)) (more : List UInt8)
    (hcap : (buf ++ more).length ≤ ibufSize) :
    javadRecv order sync (buf ++ more) = (0, buf ++ more) := by
  simp only [ibufSize, jheaderSize] at hlen hbig hcap
  rw [javadRecv_of_head order (by simp only [jheaderSize, List.length_append]; omega)
      ((wireWord_append buf more 0 (by omega)).trans hsync),
    checkFrame_wire, wireWord_append buf more 4 (by omega),
    wireWord_append buf more 10 (by omega), wireWords_append buf more 0 5 (by omega),
    if_neg (not_not.mpr hhdr.symm), if_pos (by omega), if_pos (by simp only [jheaderSize]; omega)]

theorem javadRecv_waits_on_oversized_header_300 :
    javadRecv .little 33279 ([255, 129, 0, 0, 44, 1, 0, 0, 0, 0, 213, 124] ++ []) =
      (0, [255, 129, 0, 0, 44, 1, 0, 0, 0, 0, 213, 124] ++ []) :=
  javadRecv_waits_on_oversized_header .little 33279 _ (by decide) (by decide) (by decide)
    (by decide) [] (by decide)

theorem javadRecv_keeps_oversized_header :
    ibufSize < jheaderSize + 2 * (300 + 1) ∧
      javadRecv .little 33279 [255, 129, 0, 0, 44, 1, 0, 0, 0, 0, 213, 124] =
        (0, [255, 129, 0, 0, 44, 1, 0, 0, 0, 0, 213, 124]) ∧
      javadRecv .big 33279 [255, 129, 0, 0, 44, 1, 0, 0, 0, 0, 213, 124] =
        (0, [255, 129, 0, 0, 44, 1, 0, 0, 0, 0, 213, 124]) := by
  decide

def wireBytes (w : Nat) : List UInt8 := [UInt8.ofNat w, UInt8.ofNat (w / 256)]

def encodeWords (ws : List Nat) : List UInt8 := ws.flatMap wireBytes

/-- The words of a frame in the GREIS wire format. -/
def frameWords (sync id f1 f2 : Nat) (payload : List Nat) : List Nat :=
  let header := [sync, id, payload.length, f1, f2]
  header ++ cksum header :: if payload = [] then [] else payload ++ [cksum payload]

def encodeFrame (sync id f1 f2 : Nat) (payload : List Nat) : List UInt8 :=
  encodeWords (frameWords sync id f1 f2 payload)

theorem encodeWords_cons (w : Nat) (ws : List Nat) :
    encodeWords (w :: ws) = wireBytes w ++ encodeWords ws := rfl

@[simp] theorem length_encodeWords (ws : List Nat) : (encodeWords ws).length = 2 * ws.length := by
  induction ws with
  | nil => rfl
  | cons w ws ih =>
      rw [encodeWords_cons, List.length_append, ih, List.length_cons]
      show 2 + _ = _
      omega

theorem wireWord_wireBytes (w : Nat) (r : List UInt8) : wireWord (wireBytes w ++ r) 0 = w % 65536 := by
  show w % 256 + 256 * (w / 256 % 256) = w % 65536
  omega

theorem wireWord_shift (l r : List UInt8) (i : Nat) : wireWord (l ++ r) (l.length + i) = wireWord r i := by
  simp only [wireWord, List.getD_append_right _ _ _ _ (Nat.le_add_right _ _),
    List.getD_append_right _ _ _ _ (Nat.le_add_right_of_le (Nat.le_add_right l.length i)),
    Nat.add_sub_cancel_left, Nat.add_assoc]

theorem wireWord_encodeWords (rest : List UInt8) :
    ∀ (ws : List Nat) (i : Nat), i < ws.length →
      wireWord (encodeWords ws ++ rest) (2 * i) = ws.getD i 0 % 65536
  | w :: ws, 0, _ => by rw [encodeWords_cons, List.append_assoc]; exact wireWord_wireBytes w _
  | w :: ws, i + 1, h => by
      rw [encodeWords_cons, List.append_assoc, show 2 * (i + 1) = (wireBytes w).length + 2 * i from by
        simp only [wireBytes, List.length_cons, List.length_nil]; omega, wireWord_shift,
        wireWord_encodeWords rest ws i (by simpa using h), List.getD_cons_succ]

theorem wireWords_encodeWords {ws : List Nat} (hws : ∀ w ∈ ws, w < 65536) (rest : List UInt8) :
    ∀ i k, i + k ≤ ws.length → wireWords (encodeWords ws ++ rest) (2 * i) k = (ws.drop i).take k
  | _, 0, _ => rfl
  | i, k + 1, h => by
      have hi : i < ws.length := by omega
      rw [wireWords, wireWord_encodeWords rest ws i hi, show 2 * i + 2 = 2 * (i + 1) by omega,
        wireWords_encodeWords hws rest (i + 1) k (by omega), List.drop_eq_getElem_cons hi,
        List.take_succ_cons, List.getD_eq_getElem _ _ hi,
        Nat.mod_eq_of_lt (hws _ (List.getElem_mem hi))]

theorem frameWords_lt {sync id f1 f2 : Nat} {payload : List Nat}
    (hw : ∀ w ∈ sync :: id :: f1 :: f2 :: payload, w < 65536) (hlen : payload.length < 65536) :
    ∀ w ∈ frameWords sync id f1 f2 payload, w < 65536 := by
  intro w h
  simp only [frameWords, List.cons_append, List.nil_append, List.mem_cons] at h
  rcases h with rfl | rfl | rfl | rfl | rfl | rfl | h
  · exact hw _ (by simp)
  · exact hw _ (by simp)
  · exact hlen
  · exact hw _ (by simp)
  · exact hw _ (by simp)
  · exact cksum_lt _
  · split_ifs at h
    · cases h
    · rcases List.mem_append.mp h with h | h
      · exact hw _ (by simp [h])
      · rw [List.mem_singleton.mp h]; exact cksum_lt _

theorem length_frameWords (sync id f1 f2 : Nat) (payload : List Nat) :
    (frameWords sync id f1 f2 payload).length = 6 + if payload = [] then 0 else payload.length + 1 := by
  unfold frameWords; split_ifs <;> simp; omega

theorem wireWord_encodeFrame_hsum (sync id f1 f2 : Nat) (payload : List Nat) (more : List UInt8) :
    wireWord (encodeFrame sync id f1 f2 payload ++ more) 10 = cksum [sync, id, payload.length, f1, f2] :=
  (wireWord_encodeWords more _ 5 (by rw [length_frameWords]; omega)).trans
    (Nat.mod_eq_of_lt (cksum_lt _))

section Layout

variable {sync id f1 f2 : Nat} {payload : List Nat}
  (hw : ∀ w ∈ sync :: id :: f1 :: f2 :: payload, w < 65536) (hlen : payload.length < 65536)
  (more : List UInt8)
include hw hlen

theorem wireWords_encodeFrame_header :
    wireWords (encodeFrame sync id f1 f2 payload ++ more) 0 5 = [sync, id, payload.length, f1, f2] :=
  wireWords_encodeWords (frameWords_lt hw hlen) more 0 5
    (by rw [length_frameWords]; omega)

theorem wireWords_encodeFrame_payload (hp : payload ≠ []) :
    wireWords (encodeFrame sync id f1 f2 payload ++ more) jheaderSize (payload.length + 1) =
      payload ++ [cksum payload] := by
  have hdrop : (frameWords sync id f1 f2 payload).drop 6 = payload ++ [cksum payload] := by
    simp [frameWords, hp]
  rw [show jheaderSize = 2 * 6 from rfl, encodeFrame,
    wireWords_encodeWords (frameWords_lt hw hlen) more 6 _ (by rw [length_frameWords, if_neg hp]),
    hdrop, List.take_of_length_le (by simp)]

theorem frameLength_encodeFrame :
    frameLength sync (encodeFrame sync id f1 f2 payload ++ more) =
      some (encodeFrame sync id f1 f2 payload).length := by
  have hhead := wireWords_encodeFrame_header hw hlen more
  simp only [wireWords, List.cons.injEq] at hhead
  obtain ⟨h0, -, h4, -, -, -⟩ := hhead
  have henc : (encodeFrame sync id f1 f2 payload).length =
      2 * (6 + if payload = [] then 0 else payload.length + 1) := by
    rw [encodeFrame, length_encodeWords, length_frameWords]
  have hbuf := List.length_append (encodeFrame sync id f1 f2 payload) more
  unfold frameLength
  rw [if_pos ⟨by simp only [jheaderSize]; omega, h0, by
      rw [wireWords_encodeFrame_header hw hlen more, wireWord_encodeFrame_hsum sync id f1 f2 payload more]⟩, h4]
  by_cases hp : payload = []
  · rw [if_pos (by rw [hp]; rfl), henc, if_pos hp]
    rfl
  · rw [if_neg hp] at henc
    have hpay := wireWords_encodeFrame_payload hw hlen more hp
    rw [wireWords_succ] at hpay
    obtain ⟨hpw, hpc⟩ := List.append_inj' hpay rfl
    rw [List.singleton_inj] at hpc
    rw [if_neg fun h => hp (List.eq_nil_of_length_eq_zero h),
      if_pos ⟨by simp only [jheaderSize]; omega, by rw [hpw, hpc]⟩, henc]
    exact congrArg some (by simp only [jheaderSize]; omega)

theorem javadRecv_encodeFrame (order : ByteOrder) :
    javadRecv order sync (encodeFrame sync id f1 f2 payload ++ more) =
        ((encodeFrame sync id f1 f2 payload).length, encodeFrame sync id f1 f2 payload ++ more) ∧
      (loadShorts order (encodeFrame sync id f1 f2 payload ++ more) 0 5).map (getshort order) =
        [sync, id, payload.length, f1, f2] ∧
      (loadShorts order (encodeFrame sync id f1 f2 payload ++ more) jheaderSize
        payload.length).map (getshort order) = payload := by
  have hf := frameLength_encodeFrame hw hlen more
  obtain ⟨hlen12, hsync⟩ := frameLength_head hf
  refine ⟨(javadRecv_of_head order hlen12 hsync).trans (checkFrame_of_frameLength order hf), ?_, ?_⟩
  · rw [map_getshort_loadShorts, wireWords_encodeFrame_header hw hlen more]
  · rw [map_getshort_loadShorts]
    by_cases hp : payload = []
    · subst hp; rfl
    · have hpay := wireWords_encodeFrame_payload hw hlen more hp
      rw [wireWords_succ] at hpay
      exact (List.append_inj' hpay rfl).1

end Layout

theorem javadRecv_encodeFrame_three_words :
    javadRecv .big 33279 (encodeFrame 33279 5 0 0 [1, 2, 3] ++ [7]) =
        ((encodeFrame 33279 5 0 0 [1, 2, 3]).length, encodeFrame 33279 5 0 0 [1, 2, 3] ++ [7]) ∧
      (loadShorts .big (encodeFrame 33279 5 0 0 [1, 2, 3] ++ [7]) 0 5).map (getshort .big) =
        [33279, 5, [1, 2, 3].length, 0, 0] ∧
      (loadShorts .big (encodeFrame 33279 5 0 0 [1, 2, 3] ++ [7]) jheaderSize
        [1, 2, 3].length).map (getshort .big) = [1, 2, 3] :=
  javadRecv_encodeFrame (by decide) (by decide) [7] .big

end RefclockJavad.FrameChecks
