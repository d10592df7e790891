import Mathlib.Algebra.Order.Ring.Rat
import ArtExhibition.Spec.Loads

/-!
# The progress of a streamed download

`DetailedNewsViewModel.streamDownloadImage` with `NetworkManager.streamDownloadData`: each byte that
arrives is assigned to the published `byte`, whose subscriber estimates the progress and assigns it
to `percent`. A subscription gets the current `byte` at once. `Double` and `Float` are exact
rationals, times are in seconds (`CFAbsoluteTimeGetCurrent`).
-/

namespace ArtExhibition

open Wire Networking

/-- `Double.convertMinuteToMilisecond`. -/
def convertMinuteToMilisecond (minutes : ℚ) : ℚ := minutes * 60 * 1000

/-- A value of `byte`, with the time at which the subscriber gets it. -/
structure ByteArrival where
  byte : UInt8
  now : ℚ
  deriving DecidableEq, Repr

/-- The subscription to `$byte`: what its closure has captured, and what it has assigned to
`percent`. -/
structure ByteSink where
  startTime : ℚ
  acumalatorPercent : ℚ
  percents : List ℚ
  deriving DecidableEq, Repr

/-- The closure of the subscription. -/
def ByteSink.receive (sink : ByteSink) (arrival : ByteArrival) : ByteSink :=
  if arrival.byte = 0 then sink
  else
    let fullTime := convertMinuteToMilisecond 5
    let endTime := arrival.now - sink.startTime
    let estimatedPercent := endTime / fullTime
    let estimateRatePercent := estimatedPercent * arrival.byte.toNat
    let acumalatorPercent := sink.acumalatorPercent + estimateRatePercent
    let normalziedNumber := 100000 + 1000000000 * estimatedPercent
    let roundedNumber := acumalatorPercent / normalziedNumber
    { sink with
      acumalatorPercent := acumalatorPercent
      percents := sink.percents ++ [min roundedNumber 1] }

/-- What `Router.streamDownload` returns: the response, and the bytes of the stream, which ends or
throws behind them. -/
structure StreamResponse where
  response : Option URLResponse
  stream : List ByteArrival
  thrown : Option NSError
  deriving DecidableEq, Repr

/-- `while let nextBytes = try await iterator.next()`: `byte` is assigned, then the data grows. -/
def readStream (sink : ByteSink) (accumulatorData : Bytes) : List ByteArrival → ByteSink × Bytes
  | [] => (sink, accumulatorData)
  | nextBytes :: rest => readStream (sink.receive nextBytes) (accumulatorData ++ [nextBytes.byte]) rest

/-- `NetworkManager.streamDownloadData`, with the subscription to `$byte`. -/
def streamDownloadData (sink : ByteSink) :
    Except NSError StreamResponse → ByteSink × Except NSError (Option Bytes)
  | .error err => (sink, .error err)
  | .ok routerResponse =>
    match routerResponse.response.bind URLResponse.asHTTP with
    | none => (sink, .ok none)
    | some response =>
      match handleNetworkResponse response with
      | .success =>
        let (sink, accumulatorData) := readStream sink [] routerResponse.stream
        match routerResponse.thrown with
        | some err => (sink, .error err)
        | none => (sink, .ok (some accumulatorData))
      | .failure _ => (sink, .ok none)

/-- The values assigned to `percent`, in order, and the data that the image is made of. -/
structure StreamedImage where
  percents : List ℚ
  data : Except NSError (Option Bytes)

/-- `streamDownloadImage`; `current` is the value of `byte` when the subscription is made. -/
def DetailedNewsViewModel.streamDownloadImage (startTime : ℚ) (current : ByteArrival)
    (streamDownload : BaseEnpoint → Except NSError StreamResponse) (imageID : String) : StreamedImage :=
  let sink := ByteSink.receive ⟨startTime, 0, []⟩ current
  match streamDownloadData sink (streamDownload (Networking.streamDownloadImage imageID)) with
  | (sink, .ok (some data)) => ⟨sink.percents ++ [1], .ok (some data)⟩
  | (sink, .ok none) => ⟨sink.percents, .ok none⟩
  | (sink, .error err) => ⟨sink.percents, .error err⟩

end ArtExhibition
