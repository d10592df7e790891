import ArtExhibition.Machine.Run
import ArtExhibition.Machine.Slots
import ArtExhibition.Machine.Results
import ArtExhibition.Spec.Callbacks
import ArtExhibition.Spec.Login
import ArtExhibition.Spec.Bridges
import ArtExhibition.Proof.Identity
import ArtExhibition.Proof.Bridges
import ArtExhibition.Spec.Keychain
import ArtExhibition.Spec.UserInformation
import ArtExhibition.Proof.Keychain
import ArtExhibition.Proof.Enrolment
import ArtExhibition.Spec.AccountCreation
import ArtExhibition.Proof.AccountCreation
import ArtExhibition.Spec.Router
import ArtExhibition.Proof.Router
import ArtExhibition.Spec.Operation
import ArtExhibition.Proof.Operation
import ArtExhibition.Spec.Images
import ArtExhibition.Proof.LoadTable
import ArtExhibition.Proof.Pictures
import ArtExhibition.Spec.Museum
import ArtExhibition.Spec.Screen
import ArtExhibition.Proof.Screen
import ArtExhibition.Spec.LogInScreen
import ArtExhibition.Proof.LogInScreen
import ArtExhibition.Machine.Calls
import ArtExhibition.Proof.KeychainMap
import ArtExhibition.Proof.KeychainIsolation
import ArtExhibition.Spec.TabBar
import ArtExhibition.Proof.TabBar
import ArtExhibition.Spec.Loader
import ArtExhibition.Proof.Loader
import ArtExhibition.Spec.SignUpScreen
import ArtExhibition.Proof.SignUpScreen
import ArtExhibition.Wire.Bytes
import ArtExhibition.Wire.PercentEncoding
import ArtExhibition.Wire.Multipart
import ArtExhibition.Spec.Request
import ArtExhibition.Spec.Encoding
import ArtExhibition.Spec.EndPoint
import ArtExhibition.Proof.URLParameters
import ArtExhibition.Proof.BuildRequest
import ArtExhibition.Proof.Traps
import ArtExhibition.Proof.Multipart
import ArtExhibition.Proof.ContentType
import ArtExhibition.Proof.UserStore
import ArtExhibition.Machine.History
import ArtExhibition.Proof.StoredUsers
import ArtExhibition.Spec.SessionTimer
import ArtExhibition.Proof.TimeOutObservers
import ArtExhibition.Proof.IdleTimeOut
import ArtExhibition.Spec.Localizable
import ArtExhibition.Spec.LanguageScreens
import ArtExhibition.Proof.Languages
import ArtExhibition.Proof.LanguageLabels
import ArtExhibition.Machine.Completion
import ArtExhibition.Spec.NetworkManager
import ArtExhibition.Spec.Loads
import ArtExhibition.Proof.FailedReloads
import ArtExhibition.Proof.LoadOrder
import ArtExhibition.Machine.Playback
import ArtExhibition.Spec.AnimatedImage
import ArtExhibition.Proof.AnimatedImage
import ArtExhibition.Spec.Nonce
import ArtExhibition.Proof.Nonce
import ArtExhibition.Wire.Base64
import ArtExhibition.Spec.Challenge
import ArtExhibition.Proof.Challenge
import ArtExhibition.Proof.IndexPaths
import ArtExhibition.Proof.UserDocument
import ArtExhibition.Machine.EarlyReturn
import ArtExhibition.Proof.Prefetch
import ArtExhibition.Proof.KeychainDelete
import ArtExhibition.Proof.RouterCancel
import ArtExhibition.Machine.Labels
import ArtExhibition.Spec.AlertLabels
import ArtExhibition.Wire.Regex
import ArtExhibition.Wire.RegexPattern
import ArtExhibition.Spec.PasswordRule
import ArtExhibition.Proof.PasswordRule
import ArtExhibition.Proof.AlertLabels
import ArtExhibition.Machine.RunningRatio
import ArtExhibition.Spec.StreamDownload
import ArtExhibition.Proof.StreamDownload
import ArtExhibition.Wire.Gregorian
import ArtExhibition.Wire.DatePattern
import ArtExhibition.Spec.DateValue
import ArtExhibition.Proof.DateValue
import ArtExhibition.Proof.FaceIDSignIn
import ArtExhibition.Wire.JSON
import ArtExhibition.Wire.Codable
import ArtExhibition.Spec.Models
import ArtExhibition.Proof.Models
import ArtExhibition.Proof.LoadRequests
import ArtExhibition.Machine.Mirror
import ArtExhibition.Spec.Appearance
import ArtExhibition.Proof.Appearance
import ArtExhibition.Spec.DownloadScreen
import ArtExhibition.Proof.DownloadScreen
import ArtExhibition.Machine.Buffer
import ArtExhibition.Spec.Relaunch
import ArtExhibition.Proof.Relaunch
import ArtExhibition.Spec.SignIn
import ArtExhibition.Proof.SignIn
import ArtExhibition.Machine.Progress
import ArtExhibition.Proof.OperationImage
import ArtExhibition.Proof.ServedCells
import ArtExhibition.Proof.ImageDelivery
import ArtExhibition.Spec.SavedLogin
import ArtExhibition.Proof.SavedLogin
import ArtExhibition.Proof.EnrolmentHistory
