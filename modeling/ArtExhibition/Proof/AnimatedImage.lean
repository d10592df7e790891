import ArtExhibition.Machine.Playback
import ArtExhibition.Machine.Results
import ArtExhibition.Spec.AnimatedImage

/-!
# GIF expansion keeps the timing, with the fewest frames

* `gcdForArray_eq`: on positive delays the loops end with their greatest common divisor;
  `gcdForArray_greatest` says what that is.
* `animatedImageWithSource_eq`: the frames are the source's, each `delay / gcd` times in order.
* `animatedImageWithSource_timing`: each is shown in one piece for exactly its delay, and no
  shorter array does that. The delays are positive, as the source clamps them
  (`hundred_le_delay`).
-/

namespace ArtExhibition.UIImage

open Machine

variable {CGImage Double : Type} [LinearOrder Double] {doubles : Doubles Double}

/-! ### The greatest common divisor -/

/-- Euclid's loop: the remainder goes down and the divisor stays. -/
theorem gcdLoop_eq {a b : ℤ} (ha : 0 ≤ a) (hb : 0 < b) : gcdLoop a b = .ok (gcd a b) := by
  induction a, b using gcdLoop.induct with
  | case1 a => exact absurd hb (lt_irrefl 0)
  | case2 a b ne rest zero =>
    have dvd : b ∣ a := Int.dvd_of_tmod_eq_zero zero
    rw [gcdLoop, dif_neg ne, if_pos zero, gcd_eq_right_iff _ _ (Int.normalize_of_nonneg hb.le) |>.mpr dvd]
  | case3 a b ne rest rest_ne ih =>
    have rest_pos : 0 < rest := lt_of_le_of_ne (Int.tmod_nonneg b ha) (Ne.symm rest_ne)
    rw [gcdLoop, dif_neg ne, if_neg rest_ne, ih hb.le rest_pos, ← Int.coe_gcd, ← Int.coe_gcd]
    have : rest = a % b := Int.tmod_eq_emod_of_nonneg ha
    rw [this, Int.gcd_comm b, Int.gcd_emod]

theorem gcdForPair_eq {a b : ℤ} (ha : 0 < a) (hb : 0 < b) :
    gcdForPair (some a) (some b) = .ok (gcd a b) := by
  unfold gcdForPair
  dsimp only
  split
  · rw [gcdLoop_eq hb.le ha, gcd_comm]
  · exact gcdLoop_eq ha.le hb

theorem gcd_pos_of_pos_left {a b : ℤ} (ha : 0 < a) : 0 < gcd a b := by
  rw [← Int.coe_gcd]
  exact_mod_cast Int.gcd_pos_of_ne_zero_left b ha.ne'

theorem foldlM_gcdForPair {delays : List ℤ} (pos : ∀ d ∈ delays, 0 < d) {g : ℤ} (hg : 0 < g) :
    delays.foldlM (fun gcd val => gcdForPair (some val) (some gcd)) g =
      .ok (gcd g (delays : Multiset ℤ).gcd) := by
  induction delays generalizing g with
  | nil => simp [Int.normalize_of_nonneg hg.le]; rfl
  | cons d delays ih =>
    obtain ⟨hd, pos⟩ := List.forall_mem_cons.mp pos
    rw [List.foldlM_cons, gcdForPair_eq hd hg]
    change delays.foldlM _ (gcd d g) = _
    rw [ih pos (gcd_pos_of_pos_left hd), ← Multiset.cons_coe, Multiset.gcd_cons, gcd_comm d g, gcd_assoc]

/-- The first element is folded in twice, which changes nothing. -/
theorem gcdForArray_eq {delays : List ℤ} (ne : delays ≠ []) (pos : ∀ d ∈ delays, 0 < d) :
    gcdForArray delays = .ok (delays : Multiset ℤ).gcd := by
  obtain ⟨first, rest, rfl⟩ := List.exists_cons_of_ne_nil ne
  have hf := pos first List.mem_cons_self
  rw [gcdForArray, foldlM_gcdForPair pos hf, ← Multiset.cons_coe, Multiset.gcd_cons, ← gcd_assoc]
  congr 2
  exact (gcd_same first).trans (Int.normalize_of_nonneg hf.le)

/-- **`gcdForArray` is the greatest common divisor.** On an array of positive numbers the loops end
without a division by zero, with 1 for the empty array, and otherwise with the positive number that
divides every element and that every common divisor divides; the order does not matter. -/
theorem gcdForArray_greatest {array : List ℤ} (pos : ∀ val ∈ array, 0 < val) :
    ∃ gcd, gcdForArray array = .ok gcd ∧ 0 < gcd ∧ (array = [] → gcd = 1) ∧
      (array ≠ [] → (∀ val ∈ array, gcd ∣ val) ∧ ∀ d, (∀ val ∈ array, d ∣ val) → d ∣ gcd) ∧
      ∀ permuted : List ℤ, permuted.Perm array → gcdForArray permuted = .ok gcd := by
  rcases eq_or_ne array [] with rfl | ne
  · refine ⟨1, rfl, one_pos, fun _ => rfl, fun ne => absurd rfl ne, fun permuted perm => ?_⟩
    rw [perm.eq_nil]
    rfl
  · have value := gcdForArray_eq ne pos
    refine ⟨(array : Multiset ℤ).gcd, value, gcd_pos_of_pos ne pos, fun empty => absurd empty ne,
      fun _ => ⟨fun val hval => ?_, fun d hd => ?_⟩, fun permuted perm => ?_⟩
    · exact Multiset.gcd_dvd (Multiset.mem_coe.mpr hval)
    · exact Multiset.dvd_gcd.mpr fun val hval => hd val (Multiset.mem_coe.mp hval)
    · have ne_permuted : permuted ≠ [] := by
        rintro rfl
        exact ne perm.nil_eq.symm
      have pos_permuted : ∀ val ∈ permuted, 0 < val := fun val hval => pos val (perm.mem_iff.mp hval)
      rw [gcdForArray_eq ne_permuted pos_permuted, Multiset.coe_eq_coe.mpr perm]

theorem gcdForArray_greatest_three :
    gcdForArray [300, 450, 120] = .ok 30 ∧ gcdForArray [120, 300, 450] = .ok 30 := by
  have pos : ∀ val ∈ [(300 : ℤ), 450, 120], 0 < val := by decide
  obtain ⟨gcd, value, gcd_pos, -, greatest, same⟩ := gcdForArray_greatest pos
  obtain ⟨divides, common⟩ := greatest (by decide)
  have below : gcd ∣ 450 - 300 - 120 :=
    dvd_sub (dvd_sub (divides 450 (by decide)) (divides 300 (by decide))) (divides 120 (by decide))
  have above : 30 ∣ gcd := common 30 (by decide)
  obtain rfl : gcd = 30 := Int.dvd_antisymm gcd_pos.le (by decide) below above
  exact ⟨value, same _ (by decide)⟩

/-! ### The frames -/

/-- How often each frame is repeated. -/
def frameCounts (delays : List ℤ) : List ℕ :=
  delays.map fun delay => (delay / (delays : Multiset ℤ).gcd).toNat

theorem mul_frameCount {delays : List ℤ} (pos : ∀ d ∈ delays, 0 < d) {d : ℤ} (hd : d ∈ delays) :
    (delays : Multiset ℤ).gcd * (d / (delays : Multiset ℤ).gcd).toNat = d := by
  have gcd_pos := gcd_pos_of_pos (List.ne_nil_of_mem hd) pos
  rw [Int.toNat_of_nonneg (Int.ediv_nonneg (pos d hd).le gcd_pos.le)]
  exact Int.mul_ediv_cancel' (Multiset.gcd_dvd hd)

/-- The counts add up to the total over the divisor. -/
theorem mul_sum_frameCounts {delays : List ℤ} (pos : ∀ d ∈ delays, 0 < d) :
    (delays : Multiset ℤ).gcd * ((frameCounts delays).sum : ℤ) = delays.sum := by
  have : ∀ l ⊆ delays, (delays : Multiset ℤ).gcd *
      (((l.map fun d => (d / (delays : Multiset ℤ).gcd).toNat).sum : ℕ) : ℤ) = l.sum := by
    intro l hl
    induction l with
    | nil => simp
    | cons d l ih =>
      obtain ⟨hd, hl⟩ := List.cons_subset.mp hl
      rw [List.map_cons, List.sum_cons, List.sum_cons, Nat.cast_add, mul_add, ih hl,
        mul_frameCount pos hd]
  exact this delays (List.Subset.refl _)

/-- One round of the expansion: no trap, and the frame as often as its delay says. -/
theorem repeated_quotient {delays : List ℤ} (pos : ∀ d ∈ delays, 0 < d) {d : ℤ} (hd : d ∈ delays)
    (frame : CGImage) :
    (do repeated frame (← quotient d (delays : Multiset ℤ).gcd)) =
      .ok (List.replicate (d / (delays : Multiset ℤ).gcd).toNat frame) := by
  have gcd_pos := gcd_pos_of_pos (List.ne_nil_of_mem hd) pos
  have nonneg := Int.ediv_nonneg (pos d hd).le gcd_pos.le
  rw [quotient, if_neg gcd_pos.ne', Int.tdiv_eq_ediv_of_nonneg (pos d hd).le]
  change repeated frame _ = _
  rw [repeated, if_neg nonneg.not_gt]

/-- The expansion loop over all frames. -/
theorem expansion_eq {delays : List ℤ} (pos : ∀ d ∈ delays, 0 < d) (images : List CGImage) :
    ((images.zip delays).mapM fun (frame, delay) => do
        repeated frame (← quotient delay (delays : Multiset ℤ).gcd)) =
      .ok ((images.zip delays).map fun p =>
        List.replicate (p.2 / (delays : Multiset ℤ).gcd).toNat p.1) := by
  apply mapM_ok
  rintro ⟨frame, delay⟩ hp
  exact repeated_quotient pos (List.of_mem_zip hp).2 frame

theorem flatten_map_zip (images : List CGImage) (delays : List ℤ) (count : ℤ → ℕ) :
    ((images.zip delays).map fun p => List.replicate (count p.2) p.1).flatten =
      expand images (delays.map count) := by
  rw [expand, List.zipWith_map_right, ← List.map_uncurry_zip_eq_zipWith]
  rfl

/-- Every image can be made, so the collecting loop returns none of its early `nil`s. -/
theorem mapM_image_eq_some {Seconds : Type} {source : List (SourceFrame CGImage Seconds)} {images : List CGImage}
    (h : source.map SourceFrame.image = images.map some) :
    source.mapM SourceFrame.image = some images := by
  induction source generalizing images with
  | nil => rw [List.map_eq_nil_iff.mp h.symm]; rfl
  | cons frame source ih =>
    cases images with
    | nil => cases h
    | cons image images =>
      rw [List.map_cons, List.map_cons, List.cons.injEq] at h
      rw [List.mapM_cons, h.1, ih h.2]
      rfl

/-- **The array built**: each frame `delay / gcd` times, in order, over the sum of the delays. -/
theorem animatedImageWithSource_eq {source : List (SourceFrame CGImage Double)} {images : List CGImage}
    (hi : source.map SourceFrame.image = images.map some) {delays : List ℤ}
    (hd : source.map (delay doubles) = delays) (pos : ∀ d ∈ delays, 0 < d) :
    animatedImageWithSource doubles source =
      .ok (some ⟨expand images (frameCounts delays), delays.sum / 1000⟩) := by
  rw [animatedImageWithSource, mapM_image_eq_some hi]
  dsimp only
  rw [hd]
  rcases eq_or_ne delays [] with rfl | ne
  · have : images = [] := by
      rw [List.map_eq_nil_iff.mp hd] at hi
      exact List.map_eq_nil_iff.mp hi.symm
    rw [this]
    rfl
  · rw [gcdForArray_eq ne pos]
    simp only [bind, Except.bind]
    have frames := expansion_eq pos images
    simp only [bind, Except.bind] at frames
    rw [frames]
    exact congrArg (fun frames => Except.ok (some (AnimatedImage.mk frames _)))
      (flatten_map_zip images delays fun d => (d / (delays : Multiset ℤ).gcd).toNat)

/-- The source's own clamp makes every delay positive. -/
theorem hundred_le_delay (frame : SourceFrame CGImage Double) : 100 ≤ delay doubles frame := by
  have clamped : doubles.tenth ≤ delayForImageAtIndex doubles frame := by
    unfold delayForImageAtIndex
    extract_lets delay
    by_cases small : delay < doubles.tenth
    · rw [if_pos small]
    · rw [if_neg small]
      exact not_lt.mp small
  exact doubles.milliseconds_tenth ▸ doubles.monotone _ _ clamped

theorem hundred_le_of_mem {source : List (SourceFrame CGImage Double)} {delays : List ℤ}
    (hd : source.map (delay doubles) = delays) : ∀ d ∈ delays, 100 ≤ d := by
  rw [← hd, List.forall_mem_map]
  exact fun frame _ => hundred_le_delay frame

/-! ### The timing -/

/-- Played over their sum, the delays' own expansion shows each number for its delay. -/
theorem shownFor_frameCounts {delays : List ℤ} (pos : ∀ d ∈ delays, 0 < d) {i : ℕ}
    (hi : i < delays.length) :
    ShownFor (expand (List.range delays.length) (frameCounts delays)) (delays.sum / 1000) i
      (delays[i] / 1000) := by
  have hlen : (frameCounts delays).length = delays.length := List.length_map _
  have hi' : i < (frameCounts delays).length := hlen ▸ hi
  obtain ⟨before, count, after, eq, hb, ha, time⟩ := shownFor_expand hlen (delays.sum / 1000) hi'
  refine ⟨before, count, after, eq, hb, ha, time.trans ?_⟩
  have total := mul_sum_frameCounts pos
  have own : (delays : Multiset ℤ).gcd * ((frameCounts delays)[i] : ℤ) = delays[i] := by
    simpa [frameCounts] using mul_frameCount pos (List.getElem_mem hi)
  have sum_ne : ((frameCounts delays).sum : ℚ) ≠ 0 := by
    have in_sum := List.single_le_sum (fun _ _ => Nat.zero_le _) _ (List.getElem_mem hi')
    have : (frameCounts delays)[i] ≠ 0 := by
      intro zero
      rw [zero, Nat.cast_zero, mul_zero] at own
      exact (pos _ (List.getElem_mem hi)).ne own
    exact_mod_cast (by omega : (frameCounts delays).sum ≠ 0)
  rw [← total, ← own, Int.cast_mul, Int.cast_mul, Int.cast_natCast, Int.cast_natCast]
  field_simp

/-- The frames are those of the index array. -/
theorem expand_images (images : List CGImage) (counts : List ℕ) :
    (expand images counts).map some =
      (expand (List.range images.length) counts).map (images[·]?) := by
  rw [← expand_map, ← expand_map]
  congr 1
  apply List.ext_getElem <;> simp

/-- **GIF expansion keeps the timing with the fewest frames.** For source frames whose images
can be made, with these delays in milliseconds (100 at least), the array built is each frame
`delay / gcd` times in order, empty for no frames; played over its duration it shows each frame in
one piece for exactly its delay, and no shorter array of these frames does. -/
theorem animatedImageWithSource_timing {source : List (SourceFrame CGImage Double)}
    {images : List CGImage} (hi : source.map SourceFrame.image = images.map some) {delays : List ℤ}
    (hd : source.map (delay doubles) = delays) :
    (∀ d ∈ delays, 100 ≤ d) ∧
    ∃ animation, animatedImageWithSource doubles source = .ok (some animation) ∧
      animation.images =
        expand images (delays.map fun d => (d / (delays : Multiset ℤ).gcd).toNat) ∧
      (∃ played : List ℕ, animation.images.map some = played.map (images[·]?) ∧
        ∀ i (hi : i < delays.length), ShownFor played animation.duration i (delays[i] / 1000)) ∧
      (∀ other : List ℕ,
        (∀ i (hi : i < delays.length), ShownFor other animation.duration i (delays[i] / 1000)) →
        animation.images.length ≤ other.length) ∧
      (source = [] → animation.images = []) := by
  have clamped := hundred_le_of_mem hd
  have pos : ∀ d ∈ delays, 0 < d := fun d hmem => by
    have := clamped d hmem
    omega
  have hlen : images.length = delays.length := by
    rw [← hd, List.length_map, ← List.length_map some, ← hi, List.length_map]
  refine ⟨clamped, _, animatedImageWithSource_eq hi hd pos, rfl, ⟨_, expand_images images _, ?_⟩, ?_, ?_⟩
  · rw [hlen]
    exact fun i hi => shownFor_frameCounts pos hi
  · intro other shown
    simp only [div_eq_inv_mul] at shown
    have least := sum_le_gcd_mul_length pos (by norm_num) shown
    dsimp only
    rw [@length_expand _ _ (frameCounts delays) (hlen.trans (List.length_map _).symm)]
    rcases eq_or_ne delays [] with rfl | ne
    · exact Nat.zero_le _
    · rw [← mul_sum_frameCounts pos, mul_comm] at least
      exact_mod_cast le_of_mul_le_mul_right least (gcd_pos_of_pos ne pos)
  · rintro rfl
    rw [List.map_eq_nil_iff.mp hi.symm]
    rfl

/-- Rationals, which multiply exactly; 0.2 and 0.3 give the same milliseconds as `Double`s. -/
def exactDoubles : Doubles ℚ where
  zero := 0
  tenth := 1 / 10
  milliseconds delaySeconds := ⌊delaySeconds * 1000⌋
  monotone _ _ h := Int.floor_mono (mul_le_mul_of_nonneg_right h (by decide))
  milliseconds_tenth := by decide +kernel

/-- Two frames of 200 and 300 ms: two entries of the first, three of the second. -/
theorem animatedImageWithSource_timing_two :
    ∃ animation, animatedImageWithSource exactDoubles [⟨some 'a', 1 / 5, 0⟩, ⟨some 'b', 0, 3 / 10⟩] =
        .ok (some animation) ∧
      animation.images.length = 5 := by
  have hd : [SourceFrame.mk (some 'a') (1 / 5 : ℚ) 0, ⟨some 'b', 0, 3 / 10⟩].map (delay exactDoubles) =
      [200, 300] := by
    decide +kernel
  obtain ⟨-, animation, returned, frames, -⟩ :=
    @animatedImageWithSource_timing _ _ _ exactDoubles _ ['a', 'b'] rfl _ hd
  refine ⟨animation, returned, ?_⟩
  rw [frames]
  decide +kernel

end ArtExhibition.UIImage
