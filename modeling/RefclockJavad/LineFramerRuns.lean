import RefclockJavad.LineFramer

namespace RefclockJavad.LineFramerRuns

open RefclockJavad.State
open RefclockJavad.LineFramer

def receiveRun (s : Instance) : List (List UInt8) → Instance × List (List UInt8)
  | [] => (s, [])
  | c :: cs =>
      let r := javadReceive s c
      match r.2 with
      | .pending => receiveRun r.1 cs
      | .line l => ((receiveRun r.1 cs).1, l :: (receiveRun r.1 cs).2)
      | .aborted => (r.1, [])

/-- The abstract framer over a sequence of chunks. -/
def frameRun (buf : List UInt8) : List (List UInt8) → List UInt8 × List (List UInt8)
  | [] => (buf, [])
  | c :: cs => ((frameRun (frame buf c).1 cs).1, (frame buf c).2.toList ++ (frameRun (frame buf c).1 cs).2)

def crlfLines (l : List UInt8) : List (List UInt8) :=
  match h : crlfIndex l with
  | none => []
  | some i => l.take (i + 2) :: crlfLines (l.drop (i + 2))
termination_by l.length
decreasing_by have := crlfIndex_add_two_le h; simp only [List.length_drop]; omega

def Unclamped : Instance → List (List UInt8) → Prop
  | _, [] => True
  | s, c :: cs => receiveLength s.ssize c.length = c.length ∧ Unclamped (javadReceive s c).1 cs

theorem crlfLines_of_some {l : List UInt8} {i : Nat} (h : crlfIndex l = some i) :
    crlfLines l = l.take (i + 2) :: crlfLines (l.drop (i + 2)) := by
  rw [crlfLines]; split <;> simp_all

theorem frame_flatten (buf chunk : List UInt8) :
    (frame buf chunk).2.toList.flatten ++ (frame buf chunk).1 = buf ++ chunk := by
  unfold frame
  split <;> simp

theorem frame_length_le (buf chunk : List UInt8) :
    (frame buf chunk).1.length ≤ buf.length + chunk.length := by
  have h := congrArg List.length (frame_flatten buf chunk)
  simp only [List.length_append] at h
  omega

theorem frameRun_flatten (buf : List UInt8) (cs : List (List UInt8)) :
    (frameRun buf cs).2.flatten ++ (frameRun buf cs).1 = buf ++ cs.flatten := by
  induction cs generalizing buf with
  | nil => simp [frameRun]
  | cons c cs ih =>
      simp only [frameRun, List.flatten_append, List.append_assoc, ih, List.flatten_cons]
      rw [← List.append_assoc, frame_flatten, List.append_assoc]

theorem frameRun_crlfLines (buf : List UInt8) (cs : List (List UInt8)) (rest : List UInt8) :
    (frameRun buf cs).2 ++ crlfLines ((frameRun buf cs).1 ++ rest) =
      crlfLines (buf ++ cs.flatten ++ rest) := by
  induction cs generalizing buf with
  | nil => simp [frameRun]
  | cons c cs ih =>
      simp only [frameRun, List.append_assoc, ih, List.flatten_cons]
      unfold frame
      cases h : crlfIndex (buf ++ c) with
      | none => simp
      | some i =>
          have hi := crlfIndex_add_two_le h
          rw [← List.append_assoc buf c, crlfLines_of_some (crlfIndex_append _ h),
            List.take_append_of_le_length hi, List.drop_append_of_le_length hi]
          simp

theorem frameRun_length_le (buf : List UInt8) (cs : List (List UInt8)) :
    (frameRun buf cs).2.length ≤ cs.length := by
  induction cs generalizing buf with
  | nil => exact Nat.le_refl 0
  | cons c cs ih =>
      have := ih (frame buf c).1
      simp only [frameRun, List.length_append, List.length_cons]
      cases (frame buf c).2 <;> simp only [Option.toList, List.length_nil, List.length_singleton] <;>
        omega

theorem fit_of_receiveLength {ssize n : Nat} (hs : ssize ≤ 513) (h : receiveLength ssize n = n) :
    ssize + n ≤ 513 := by
  simp only [receiveLength, clampBound_of_le hs] at h
  split_ifs at h <;> omega

theorem receiveRun_frameRun (s : Instance) (cs : List (List UInt8)) (hnul : ∀ c ∈ cs, 0 ∉ c)
    (hs : s.ssize ≤ 513) (hun : Unclamped s cs) :
    buffered (receiveRun s cs).1 = (frameRun (buffered s) cs).1 ∧
      (receiveRun s cs).2 = (frameRun (buffered s) cs).2 := by
  induction cs generalizing s with
  | nil => exact ⟨rfl, rfl⟩
  | cons c cs ih =>
      obtain ⟨hlen, hun⟩ := hun
      have hfit := fit_of_receiveLength hs hlen
      obtain ⟨hbuf, hout⟩ := javadReceive_frame s (hnul c (List.mem_cons_self _ _)) hfit
      have hs' : (javadReceive s c).1.ssize ≤ 513 := by
        have := frame_length_le (buffered s) c
        rw [← hbuf, length_buffered, length_buffered] at this
        omega
      obtain ⟨ih1, ih2⟩ := ih _ (fun c' h => hnul c' (List.mem_cons_of_mem _ h)) hs' hun
      rw [hbuf] at ih1 ih2
      simp only [receiveRun, frameRun, hout]
      cases (frame (buffered s) c).2 <;> exact ⟨ih1, by simp [Received.ofLine, ih2]⟩

theorem unclamped_of_length_le (s : Instance) (cs : List (List UInt8)) (hnul : ∀ c ∈ cs, 0 ∉ c)
    (h : s.ssize + cs.flatten.length ≤ 513) : Unclamped s cs := by
  induction cs generalizing s with
  | nil => trivial
  | cons c cs ih =>
      simp only [List.flatten_cons, List.length_append] at h
      have hbuf := (javadReceive_frame s (hnul c (List.mem_cons_self _ _)) (by omega)).1
      have hle := frame_length_le (buffered s) c
      rw [← hbuf, length_buffered, length_buffered] at hle
      exact ⟨receiveLength_of_fit (by omega),
        ih _ (fun c' h => hnul c' (List.mem_cons_of_mem _ h)) (by omega)⟩

theorem receiveRun_lines_append_buffered (s : Instance) (hs : s.ssize = 0) (cs : List (List UInt8))
    (hnul : ∀ c ∈ cs, 0 ∉ c) (hun : Unclamped s cs) :
    (receiveRun s cs).2.flatten ++ buffered (receiveRun s cs).1 = cs.flatten := by
  obtain ⟨h1, h2⟩ := receiveRun_frameRun s cs hnul (by omega) hun
  rw [h1, h2, frameRun_flatten, buffered_of_ssize_zero hs, List.nil_append]

theorem receiveRun_lines_append_buffered_two_chunks :
    (receiveRun emallocZero [[65, 66, 13], [10, 67]]).2.flatten ++
        buffered (receiveRun emallocZero [[65, 66, 13], [10, 67]]).1 =
      [[65, 66, 13], [10, 67]].flatten :=
  receiveRun_lines_append_buffered emallocZero rfl _ (by decide)
    (unclamped_of_length_le _ _ (by decide) (by decide))

theorem receiveRun_reemits_stale_bytes :
    (receiveRun emallocZero [[65, 66, 13, 10], [0, 0, 0, 0]]).2 =
        [[65, 66, 13, 10], [0, 66, 13, 10]] ∧
      buffered (receiveRun emallocZero [[65, 66, 13, 10], [0, 0, 0, 0]]).1 = [] := by
  decide

theorem receiveRun_full (s : Instance) (cs : List (List UInt8)) (h : s.ssize = 513)
    (hline : crlfIndex (buffered s) = none) :
    (receiveRun s cs).2 = [] ∧ buffered (receiveRun s cs).1 = buffered s := by
  induction cs generalizing s with
  | nil => exact ⟨rfl, rfl⟩
  | cons c cs ih =>
      let s' : Instance := { s with ibuf := Function.update s.ibuf 513 0 }
      have hbuf : buffered s' = buffered s := by
        simp only [s', buffered, h]
        exact bytes_update_of_le _ 513 0 513 _ le_rfl
      obtain ⟨ih1, ih2⟩ := ih s' h (by rw [hbuf]; exact hline)
      simp only [receiveRun, javadReceive_full s c h hline]
      exact ⟨ih1, ih2.trans hbuf⟩

theorem javadReceive_fit_clamp_wedge :
    (∀ (s : Instance) (pre : List UInt8), 0 ∉ pre → s.ssize + pre.length + 2 ≤ 511 →
        ∃ l, (javadReceive s (pre ++ [13, 10])).2 = .line l) ∧
    (∀ (s : Instance) (chunk : List UInt8), s.ssize ≤ 513 → 513 < s.ssize + chunk.length →
        javadReceive s chunk = javadReceive s (chunk.take (513 - s.ssize))) ∧
    (∀ (s : Instance) (cs : List (List UInt8)), s.ssize = 513 → crlfIndex (buffered s) = none →
        (receiveRun s cs).2 = [] ∧ buffered (receiveRun s cs).1 = buffered s) := by
  refine ⟨fun s pre hnul hfit => ?_, javadReceive_clamp, receiveRun_full⟩
  have hnul' : (0 : UInt8) ∉ pre ++ [13, 10] := by simpa using hnul
  have hout := (javadReceive_frame s hnul' (by simp only [List.length_append]; simp; omega)).2
  obtain ⟨i, hi⟩ := Option.isSome_iff_exists.mp
    (crlfIndex_append_crlf_isSome (buffered s ++ pre))
  rw [List.append_assoc] at hi
  simp only [frame, hi] at hout
  exact ⟨_, hout⟩

theorem javadReceive_after_drop :
    buffered (javadReceive emallocZero (List.replicate 500 65)).1 = List.replicate 500 65 ∧
      (javadReceive (javadReceive emallocZero (List.replicate 500 65)).1
        (List.replicate 20 66 ++ [13, 10])).2 = .pending ∧
      buffered (javadReceive (javadReceive emallocZero (List.replicate 500 65)).1
        (List.replicate 20 66 ++ [13, 10])).1 = List.replicate 500 65 ++ List.replicate 13 66 := by
  have h1 := (javadReceive_no_cr emallocZero (List.replicate 500 65)
    (by rw [List.mem_replicate]; decide) (by rw [List.length_replicate]; decide)
    (by rw [buffered_of_ssize_zero emallocZero_ssize, List.nil_append, List.mem_replicate]; decide)).1
  rw [buffered_of_ssize_zero emallocZero_ssize, List.nil_append] at h1
  have hs1 : (javadReceive emallocZero (List.replicate 500 65)).1.ssize = 500 := by
    rw [← length_buffered, h1, List.length_replicate]
  have htake : (List.replicate 20 (66 : UInt8) ++ [13, 10]).take (513 - 500) =
      List.replicate 13 66 := by
    rw [List.take_append_of_le_length (by rw [List.length_replicate]; decide), List.take_replicate]
    congr 1
  have hclamp := javadReceive_clamp (javadReceive emallocZero (List.replicate 500 65)).1
    (List.replicate 20 66 ++ [13, 10]) (by rw [hs1]; decide)
    (by rw [hs1, List.length_append, List.length_replicate]; decide)
  rw [hs1, htake] at hclamp
  have h2 := javadReceive_no_cr (javadReceive emallocZero (List.replicate 500 65)).1
    (List.replicate 13 66) (by rw [List.mem_replicate]; decide)
    (by rw [hs1, List.length_replicate])
    (by rw [h1, List.mem_append, List.mem_replicate, List.mem_replicate]; decide)
  rw [hclamp, h2.1, h1]
  exact ⟨rfl, h2.2, rfl⟩

theorem javadReceive_drops_terminator :
    (javadReceive (javadReceive emallocZero (List.replicate 500 65)).1
        (List.replicate 20 66 ++ [13, 10])).2 = .pending ∧
      (javadReceive (javadReceive emallocZero (List.replicate 500 65)).1
        (List.replicate 20 66 ++ [13, 10])).1.ssize = 513 := by
  obtain ⟨-, hp, hb⟩ := javadReceive_after_drop
  refine ⟨hp, ?_⟩
  rw [← length_buffered, hb, List.length_append, List.length_replicate, List.length_replicate]

theorem javadReceive_fit_clamp_wedge_after_drop :
    (∃ l, (javadReceive emallocZero ([65] ++ [13, 10])).2 = .line l) ∧
      javadReceive (javadReceive emallocZero (List.replicate 500 65)).1
          (List.replicate 20 66 ++ [13, 10]) =
        javadReceive (javadReceive emallocZero (List.replicate 500 65)).1
          ((List.replicate 20 (66 : UInt8) ++ [13, 10]).take
            (513 - (javadReceive emallocZero (List.replicate 500 65)).1.ssize)) ∧
      ∀ cs, (receiveRun (javadReceive (javadReceive emallocZero (List.replicate 500 65)).1
          (List.replicate 20 66 ++ [13, 10])).1 cs).2 = [] ∧
        buffered (receiveRun (javadReceive (javadReceive emallocZero (List.replicate 500 65)).1
          (List.replicate 20 66 ++ [13, 10])).1 cs).1 =
          buffered (javadReceive (javadReceive emallocZero (List.replicate 500 65)).1
            (List.replicate 20 66 ++ [13, 10])).1 := by
  obtain ⟨h1, -, h2⟩ := javadReceive_after_drop
  have hs1 : (javadReceive emallocZero (List.replicate 500 65)).1.ssize = 500 := by
    rw [← length_buffered, h1, List.length_replicate]
  have hs2 : (javadReceive (javadReceive emallocZero (List.replicate 500 65)).1
      (List.replicate 20 66 ++ [13, 10])).1.ssize = 513 := by
    rw [← length_buffered, h2, List.length_append, List.length_replicate, List.length_replicate]
  refine ⟨javadReceive_fit_clamp_wedge.1 emallocZero [65] (by decide) (by decide),
    javadReceive_fit_clamp_wedge.2.1 _ _ (by rw [hs1]; decide)
      (by rw [hs1, List.length_append, List.length_replicate]; decide),
    fun cs => javadReceive_fit_clamp_wedge.2.2 _ cs hs2 ?_⟩
  rw [h2]
  exact crlfIndex_eq_none (by rw [List.mem_append, List.mem_replicate, List.mem_replicate]; decide)

theorem receiveRun_chunking (s : Instance) (hs : s.ssize = 0) {str : List UInt8}
    (hnul : 0 ∉ str) (hlen : str.length ≤ 513) {cs : List (List UInt8)} (hcs : cs.flatten = str) :
    (receiveRun s cs).2 = (frameRun [] cs).2 ∧ (receiveRun s cs).2.length ≤ cs.length ∧
      (receiveRun s cs).2 <+: crlfLines str := by
  subst hcs
  have hnul' : ∀ c ∈ cs, 0 ∉ c := fun c hc h0 => hnul (List.mem_flatten.mpr ⟨c, hc, h0⟩)
  have hun := unclamped_of_length_le s cs hnul' (by omega)
  have hrun : (receiveRun s cs).2 = (frameRun [] cs).2 := by
    rw [(receiveRun_frameRun s cs hnul' (by omega) hun).2, buffered_of_ssize_zero hs]
  have hlines := frameRun_crlfLines [] cs []
  simp only [List.append_nil, List.nil_append] at hlines
  refine ⟨hrun, hrun ▸ frameRun_length_le [] cs, ?_⟩
  rw [hrun, ← hlines]
  exact List.prefix_append _ _

theorem receiveRun_chunkings_comparable (s : Instance) (hs : s.ssize = 0) {str : List UInt8}
    (hnul : 0 ∉ str) (hlen : str.length ≤ 511) {cs₁ cs₂ : List (List UInt8)}
    (h₁ : cs₁.flatten = str) (h₂ : cs₂.flatten = str) :
    ((receiveRun s cs₁).2 = (frameRun [] cs₁).2 ∧ (receiveRun s cs₁).2.length ≤ cs₁.length ∧
        (receiveRun s cs₁).2 <+: crlfLines str) ∧
      ((receiveRun s cs₂).2 = (frameRun [] cs₂).2 ∧ (receiveRun s cs₂).2.length ≤ cs₂.length ∧
        (receiveRun s cs₂).2 <+: crlfLines str) ∧
      ((receiveRun s cs₁).2 <+: (receiveRun s cs₂).2 ∨ (receiveRun s cs₂).2 <+: (receiveRun s cs₁).2) := by
  have r₁ := receiveRun_chunking s hs hnul (by omega) h₁
  have r₂ := receiveRun_chunking s hs hnul (by omega) h₂
  exact ⟨r₁, r₂, List.prefix_or_prefix_of_prefix r₁.2.2 r₂.2.2⟩

theorem receiveRun_chunkings_comparable_two_lines :
    (receiveRun emallocZero [[97, 13, 10, 98, 13, 10]]).2 <+:
        (receiveRun emallocZero [[97], [13], [10], [98], [13], [10]]).2 ∨
      (receiveRun emallocZero [[97], [13], [10], [98], [13], [10]]).2 <+:
        (receiveRun emallocZero [[97, 13, 10, 98, 13, 10]]).2 :=
  (receiveRun_chunkings_comparable emallocZero rfl (by decide) (by decide) rfl (by decide)).2.2

theorem receiveRun_one_line_per_call :
    [[97, 13, 10, 98, 13, 10]].flatten = [[97], [13], [10], [98], [13], [10]].flatten ∧
      (receiveRun emallocZero [[97, 13, 10, 98, 13, 10]]).2 = [[97, 13, 10]] ∧
      (receiveRun emallocZero [[97], [13], [10], [98], [13], [10]]).2 =
        [[97, 13, 10], [98, 13, 10]] := by
  decide

/-- The framer with the capacity of `javad_receive`: a chunk is cut to the room
the clamp leaves. -/
def frameClamped (buf chunk : List UInt8) : List UInt8 × Option (List UInt8) :=
  frame buf (chunk.take (ibufSize + 1 - buf.length))

def frameRunClamped (buf : List UInt8) : List (List UInt8) → List UInt8 × List (List UInt8)
  | [] => (buf, [])
  | c :: cs =>
      ((frameRunClamped (frameClamped buf c).1 cs).1,
        (frameClamped buf c).2.toList ++ (frameRunClamped (frameClamped buf c).1 cs).2)

theorem javadReceive_frameClamped (s : Instance) {chunk : List UInt8} (hnul : 0 ∉ chunk)
    (hs : s.ssize ≤ 513) :
    buffered (javadReceive s chunk).1 = (frameClamped (buffered s) chunk).1 ∧
      (javadReceive s chunk).2 = Received.ofLine (frameClamped (buffered s) chunk).2 := by
  have hk : ibufSize + 1 - (buffered s).length = 513 - s.ssize := by rw [length_buffered]; rfl
  unfold frameClamped
  rw [hk]
  by_cases hfit : s.ssize + chunk.length ≤ 513
  · rw [List.take_of_length_le (by omega)]
    exact javadReceive_frame s hnul hfit
  · rw [javadReceive_clamp s chunk hs (by omega)]
    exact javadReceive_frame s (fun h => hnul (List.mem_of_mem_take h))
      (by rw [List.length_take]; omega)

theorem frameRunClamped_sublist (buf : List UInt8) (cs : List (List UInt8)) :
    ((frameRunClamped buf cs).2.flatten ++ (frameRunClamped buf cs).1).Sublist (buf ++ cs.flatten) := by
  induction cs generalizing buf with
  | nil => simp [frameRunClamped]
  | cons c cs ih =>
      have hf := frame_flatten buf (c.take (ibufSize + 1 - buf.length))
      simp only [frameRunClamped, List.flatten_append, List.append_assoc, List.flatten_cons]
      refine ((ih _).append_left _).trans ?_
      rw [← List.append_assoc, frameClamped, hf, List.append_assoc]
      exact ((List.take_sublist _ _).append (List.Sublist.refl _)).append_left _

theorem receiveRun_frameRunClamped (s : Instance) (hs : s.ssize ≤ 513) (cs : List (List UInt8))
    (hnul : ∀ c ∈ cs, 0 ∉ c) :
    buffered (receiveRun s cs).1 = (frameRunClamped (buffered s) cs).1 ∧
      (receiveRun s cs).2 = (frameRunClamped (buffered s) cs).2 ∧
      ((receiveRun s cs).2.flatten ++ buffered (receiveRun s cs).1).Sublist
        (buffered s ++ cs.flatten) := by
  suffices h : buffered (receiveRun s cs).1 = (frameRunClamped (buffered s) cs).1 ∧
      (receiveRun s cs).2 = (frameRunClamped (buffered s) cs).2 by
    refine ⟨h.1, h.2, ?_⟩
    rw [h.1, h.2]
    exact frameRunClamped_sublist _ _
  induction cs generalizing s with
  | nil => exact ⟨rfl, rfl⟩
  | cons c cs ih =>
      obtain ⟨hbuf, hout⟩ := javadReceive_frameClamped s (hnul c (List.mem_cons_self _ _)) hs
      have hs' : (javadReceive s c).1.ssize ≤ 513 := by
        have := frame_length_le (buffered s) (c.take (ibufSize + 1 - (buffered s).length))
        rw [← frameClamped, ← hbuf, length_buffered, length_buffered, List.length_take] at this
        simp only [ibufSize] at this
        omega
      obtain ⟨ih1, ih2⟩ := ih _ hs' (fun c' h => hnul c' (List.mem_cons_of_mem _ h))
      rw [hbuf] at ih1 ih2
      simp only [receiveRun, frameRunClamped, hout]
      cases (frameClamped (buffered s) c).2 <;> exact ⟨ih1, by simp [Received.ofLine, ih2]⟩

theorem receiveRun_frameRunClamped_past_clamp :
    buffered (receiveRun emallocZero [List.replicate 500 65, List.replicate 20 66 ++ [13, 10]]).1 =
        (frameRunClamped (buffered emallocZero)
          [List.replicate 500 65, List.replicate 20 66 ++ [13, 10]]).1 ∧
      (receiveRun emallocZero [List.replicate 500 65, List.replicate 20 66 ++ [13, 10]]).2 =
        (frameRunClamped (buffered emallocZero)
          [List.replicate 500 65, List.replicate 20 66 ++ [13, 10]]).2 ∧
      ((receiveRun emallocZero [List.replicate 500 65, List.replicate 20 66 ++ [13, 10]]).2.flatten ++
          buffered (receiveRun emallocZero
            [List.replicate 500 65, List.replicate 20 66 ++ [13, 10]]).1).Sublist
        (buffered emallocZero ++ [List.replicate 500 65, List.replicate 20 66 ++ [13, 10]].flatten) :=
  receiveRun_frameRunClamped emallocZero (by decide) _ fun c hc h0 => by
    simp only [List.mem_cons, List.not_mem_nil, or_false] at hc
    rcases hc with rfl | rfl
    · exact absurd (List.eq_of_mem_replicate h0) (by decide)
    · rcases List.mem_append.mp h0 with h | h
      · exact absurd (List.eq_of_mem_replicate h) (by decide)
      · revert h; decide

end RefclockJavad.LineFramerRuns
