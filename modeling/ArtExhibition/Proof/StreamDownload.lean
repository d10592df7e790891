import ArtExhibition.Machine.RunningRatio
import ArtExhibition.Spec.StreamDownload
import Mathlib.Tactic.NormNum
import Mathlib.Tactic.Ring

/-!
# When the download's progress runs backwards

The subscriber divides a sum over all bytes so far, each byte times its seconds, by
`10⁹ * (30 + seconds)` of the last byte (`percents_eq`): a total over a scale that grows with the
time, also when no byte comes. After a pause the quotient is smaller than before.
`progress_forwards_iff`: the progress of a download stays in `[0, 1]`, never goes back and ends at 1
after a success exactly when every byte keeps up with the seconds since the one before it.
-/

namespace ArtExhibition

open Machine Wire Networking

variable {startTime : ℚ} {current arrival : ByteArrival} {arrivals : List ByteArrival}

/-- What a byte adds to the sum, and what the sum is divided by. -/
def ByteArrival.sample (startTime : ℚ) (arrival : ByteArrival) : Sample ℚ where
  gain := arrival.byte.toNat * (arrival.now - startTime)
  scale := 10 ^ 9 * (30 + (arrival.now - startTime))

/-- The subscriber ignores zeros. -/
def samples (startTime : ℚ) (arrivals : List ByteArrival) : List (Sample ℚ) :=
  (arrivals.filter (·.byte ≠ 0)).map (ByteArrival.sample startTime)

/-- The bytes that `streamDownloadData` reads: of a response that is no success, none. -/
def bytesRead : Except NSError StreamResponse → List ByteArrival
  | .error _ => []
  | .ok routerResponse =>
    match (routerResponse.response.bind URLResponse.asHTTP).map handleNetworkResponse with
    | some .success => routerResponse.stream
    | _ => []

/-- The progress of a download never goes back. -/
structure StreamedImage.Forwards (image : StreamedImage) : Prop where
  bounded : ∀ percent ∈ image.percents, 0 ≤ percent ∧ percent ≤ 1
  forwards : image.percents.IsChain (· ≤ ·)
  complete : ∀ data, image.data = .ok (some data) → image.percents.getLast? = some 1

/-! ## What the subscriber assigns -/

/-- **One byte**, with the sum so far in the units of `sample`. -/
theorem receive_eq (total : ℚ) (percents : List ℚ) (hbyte : arrival.byte ≠ 0) :
    ByteSink.receive ⟨startTime, total / 300000, percents⟩ arrival =
      ⟨startTime, (total + (arrival.sample startTime).gain) / 300000, percents ++
        [min ((total + (arrival.sample startTime).gain) / (arrival.sample startTime).scale) 1]⟩ := by
  have hsum : total / 300000 + (arrival.now - startTime) / 300000 * arrival.byte.toNat =
      (total + arrival.byte.toNat * (arrival.now - startTime)) / 300000 := by
    ring
  have hscale : 100000 + 1000000000 * ((arrival.now - startTime) / 300000) =
      10 ^ 9 * (30 + (arrival.now - startTime)) / 300000 := by
    ring
  have hfull : convertMinuteToMilisecond 5 = 300000 := by
    norm_num [convertMinuteToMilisecond]
  rw [ByteSink.receive, if_neg hbyte]
  simp only [hfull, hsum, hscale, ByteArrival.sample]
  rw [div_div_div_cancel_right₀ (by norm_num : (300000 : ℚ) ≠ 0)]

/-- **All bytes**: the values are the ratios of the sum. -/
theorem foldl_receive (total : ℚ) (percents : List ℚ) :
    (arrivals.foldl ByteSink.receive ⟨startTime, total / 300000, percents⟩).percents =
      percents ++ ratiosFrom total (samples startTime arrivals) := by
  induction arrivals generalizing total percents with
  | nil => simp [samples]
  | cons arrival arrivals ih =>
    rw [List.foldl_cons]
    by_cases hbyte : arrival.byte = 0
    · rw [ByteSink.receive, if_pos hbyte, ih, samples, samples, List.filter_cons_of_neg (by simpa)]
    · rw [receive_eq total percents hbyte, ih, samples, samples,
        List.filter_cons_of_pos (by simpa), List.map_cons, ratiosFrom_cons, List.append_assoc]
      rfl

theorem readStream_fst (sink : ByteSink) (data : Bytes) :
    (readStream sink data arrivals).1 = arrivals.foldl ByteSink.receive sink := by
  induction arrivals generalizing sink data with
  | nil => rfl
  | cons arrival arrivals ih => exact ih _ _

theorem streamDownloadData_fst (sink : ByteSink) (response : Except NSError StreamResponse) :
    (streamDownloadData sink response).1 = (bytesRead response).foldl ByteSink.receive sink := by
  cases response with
  | error err => rfl
  | ok routerResponse =>
    rw [streamDownloadData, bytesRead]
    cases routerResponse.response.bind URLResponse.asHTTP with
    | none => rfl
    | some response =>
      dsimp only [Option.map_some]
      cases handleNetworkResponse response with
      | failure text => rfl
      | success =>
        rw [← readStream_fst sink []]
        dsimp only
        cases routerResponse.thrown <;> rfl

/-- **All values of a download**: those of its bytes, and 1 at the end of one that succeeds. -/
theorem percents_eq (streamDownload : BaseEnpoint → Except NSError StreamResponse) (imageID : String) :
    let image := DetailedNewsViewModel.streamDownloadImage startTime current streamDownload imageID
    let response := streamDownload (Networking.streamDownloadImage imageID)
    let ratios := ratiosFrom 0 (samples startTime (current :: bytesRead response))
    (∃ data, image.data = .ok (some data)) ∧ image.percents = ratios ++ [1] ∨
      (∀ data, image.data ≠ .ok (some data)) ∧ image.percents = ratios := by
  intro image response ratios
  have hsink := streamDownloadData_fst (ByteSink.receive ⟨startTime, 0, []⟩ current) response
  have hratios : (streamDownloadData (ByteSink.receive ⟨startTime, 0, []⟩ current) response).1.percents =
      ratios := by
    rw [hsink, ← List.foldl_cons, ← zero_div (300000 : ℚ), foldl_receive, List.nil_append]
  simp only [image, DetailedNewsViewModel.streamDownloadImage]
  split
  · rename_i sink data hdata
    rw [hdata] at hratios
    exact .inl ⟨⟨data, rfl⟩, by rw [← hratios]⟩
  · rename_i sink hdata
    rw [hdata] at hratios
    refine .inr ⟨fun data h => ?_, hratios⟩
    cases h
  · rename_i sink err hdata
    rw [hdata] at hratios
    refine .inr ⟨fun data h => ?_, hratios⟩
    cases h

/-! ## Progress -/

theorem samples_pos (h : ∀ arrival ∈ arrivals, startTime ≤ arrival.now) :
    ∀ s ∈ samples startTime arrivals, 0 ≤ s.gain ∧ 0 < s.scale := by
  rw [samples, List.forall_mem_map]
  intro arrival harrival
  have hseconds : 0 ≤ arrival.now - startTime := sub_nonneg.2 (h arrival (List.mem_of_mem_filter harrival))
  constructor
  · exact mul_nonneg (Nat.cast_nonneg _) hseconds
  · exact mul_pos (by norm_num) (by linarith)

/-- **The progress never runs backwards** exactly when every byte that is not zero keeps up: with
`S` the sum so far and the byte before it at `E'` seconds, a byte at `E` seconds does when
`S * (E - E') ≤ byte * E * (30 + E')`, or when the value is 1 from it on. -/
theorem progress_forwards_iff {startTime : ℚ} {current : ByteArrival}
    {streamDownload : BaseEnpoint → Except NSError StreamResponse} {imageID : String}
    (after : ∀ arrival ∈ current :: bytesRead (streamDownload (Networking.streamDownloadImage imageID)),
      startTime ≤ arrival.now) :
    (DetailedNewsViewModel.streamDownloadImage startTime current streamDownload imageID).Forwards ↔
      Steady 0 (samples startTime
        (current :: bytesRead (streamDownload (Networking.streamDownloadImage imageID)))) := by
  have hpos := samples_pos after
  have hbounds := mem_ratiosFrom le_rfl hpos
  rw [← ratios_isChain_iff fun s hs => (hpos s hs).2]
  rcases percents_eq streamDownload imageID with ⟨hdata, hpercents⟩ | ⟨hdata, hpercents⟩
  · constructor
    · intro h
      exact (hpercents ▸ h.forwards).left_of_append
    · intro hchain
      have hone : ∀ percent ∈ [(1 : ℚ)], 0 ≤ percent ∧ percent ≤ 1 := by
        rw [List.forall_mem_singleton]
        exact ⟨zero_le_one, le_rfl⟩
      refine ⟨?_, ?_, fun _ _ => ?_⟩
      · rw [hpercents]
        exact List.forall_mem_append.2 ⟨hbounds, hone⟩
      · -- no value before the last is above 1
        rw [hpercents, List.isChain_append]
        refine ⟨hchain, List.isChain_singleton 1, fun percent hlast one hfirst => ?_⟩
        rw [← Option.some.inj hfirst]
        exact (hbounds percent (List.mem_of_mem_getLast? hlast)).2
      · rw [hpercents, List.getLast?_concat]
  · constructor
    · exact fun h => hpercents ▸ h.forwards
    · intro hchain
      exact ⟨hpercents ▸ hbounds, hpercents ▸ hchain, fun data h => absurd h (hdata data)⟩

/-- A success with these bytes, the first subscription at the start. -/
def streamOf (stream : List ByteArrival) (_ : BaseEnpoint) : Except NSError StreamResponse :=
  .ok ⟨some (.http ⟨200⟩), stream, none⟩

theorem progress_forwards_burst :
    (DetailedNewsViewModel.streamDownloadImage 0 ⟨0, 0⟩
      (streamOf [⟨255, 1⟩, ⟨0, 11 / 10⟩, ⟨216, 6 / 5⟩, ⟨255, 2⟩]) "ids/1").Forwards := by
  refine (progress_forwards_iff ?_).2 (by decide +kernel)
  decide +kernel

/-- **The progress runs backwards**: a small byte one second after a large one. -/
theorem pause_runs_backwards :
    let stream : List ByteArrival := [⟨255, 1⟩, ⟨1, 2⟩]
    let image := DetailedNewsViewModel.streamDownloadImage 0 ⟨0, 0⟩ (streamOf stream) "ids/1"
    stream.IsChain (fun arrival next => arrival.now ≤ next.now) ∧
      image.percents = [51 / 6200000000, 257 / 32000000000, 1] ∧ ¬ image.Forwards := by
  intro stream image
  have hpercents : image.percents = [51 / 6200000000, 257 / 32000000000, 1] := by decide +kernel
  refine ⟨by decide +kernel, hpercents, fun h => ?_⟩
  have hchain := hpercents ▸ h.forwards
  revert hchain
  decide +kernel

end ArtExhibition
