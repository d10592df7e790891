import ArtExhibition.Proof.AccountCreation

/-!
# The user document and its reader

A call that returns `true` has written the document of its user (`written_document`).
`UserModel(dictionary:)` reads back what the document holds but for the full name, which is
written under "fullname" and read under "fullName" (`ofDictionary_document`).
-/

namespace ArtExhibition

/-- The URL of the uploaded picture, if there is one. -/
def CreateCall.imageURL (call : CreateCall) : Option String :=
  call.user.imageData.bind fun _ => call.outcomes.downloadURL.1

/-- The dictionary given to `setData`. -/
def NewUser.document (user : NewUser) (userID : String) : Option String → Dictionary
  | none => user.data userID
  | some imageURL => (user.data userID).updateValue (.string imageURL) "profileImageURL"

/-- What a user's document should be read back as: each absent optional the empty string. -/
def NewUser.model (user : NewUser) (userID : String) (imageURL : Option String) : UserModel where
  email := user.email
  fullName := user.fullName.getD ""
  userName := user.userName.getD ""
  profileImageURL := imageURL.getD ""
  uid := userID

/-- **Reading a document back** loses the full name, and nothing else. -/
theorem ofDictionary_document (user : NewUser) (userID : String) (imageURL : Option String) :
    UserModel.ofDictionary (user.document userID imageURL) =
      { user.model userID imageURL with fullName := "" } := by
  cases imageURL <;> rfl

/-- `putData` and `downloadURL` go on with the URL that the storage answered. -/
theorem uploadCallbacks_resumed {outcomes : Outcomes} {imageURL : String}
    (h : (execute (uploadCallbacks outcomes)).1.head? = some (.ok imageURL)) :
    outcomes.downloadURL.1 = some imageURL := by
  obtain ⟨createUser, ⟨metadata, error⟩, ⟨url, erro⟩, setData⟩ := outcomes
  cases metadata <;> cases error <;> cases url <;>
    simp_all [uploadCallbacks, putDataCallback, downloadURLCallback, execute]

theorem setData_written {backend : Backend} {userID : String} {data : Dictionary}
    {error : Option NSError} (h : (backend.setData userID data error).1 = .returned true) :
    (backend.setData userID data error).2.documents userID = some data := by
  rcases setData_cases backend userID data error with ⟨failed, -⟩ | ⟨-, written⟩
  · exact absurd h failed
  · rw [written]
    exact Function.update_self ..

/-- **A call that returns `true`** has written its user's document under the new uid. -/
theorem written_document {challenge : String → String} {call : CreateCall} {backend : Backend}
    (h : (createNewUserNameInFireBase challenge call.user call.outcomes backend).1 =
      .returned true) :
    ∃ uid, call.outcomes.createUser.1 = some uid ∧
      (createNewUserNameInFireBase challenge call.user call.outcomes backend).2.documents uid =
        some (call.user.document uid call.imageURL) := by
  revert h
  unfold createNewUserNameInFireBase
  dsimp only
  rcases await_cases (backend.createUser call.user.email (challenge call.user.password)
      call.outcomes.createUser.1)
    (createUserCallback call.outcomes.createUser.1 call.outcomes.createUser.2) _ with
    ⟨userID, resumed, next⟩ | ⟨ends, -⟩
  swap
  · exact fun h => absurd h (ends true)
  rw [next]
  intro h
  refine ⟨userID, createUser_resumed resumed, ?_⟩
  unfold CreateCall.imageURL
  cases picture : call.user.imageData with
  | none =>
    rw [picture] at h
    dsimp only at h ⊢
    split at h
    · rw [if_pos ‹_›]
      exact setData_written h
    · cases h
  | some imageData =>
    rw [picture] at h
    dsimp only at h ⊢
    rcases await_cases _ (uploadCallbacks call.outcomes) _ with ⟨imageURL, resumed, next⟩ | ⟨ends, -⟩
    · rw [next] at h ⊢
      rw [Option.bind_some, uploadCallbacks_resumed resumed]
      exact setData_written h
    · exact absurd h (ends true)

/-- **When the user document round-trips.** After a call that returned `true` the document at
the new uid reads back as the call's user exactly when there is no full name, or an empty one. -/
theorem user_document_round_trips_iff {challenge : String → String} {call : CreateCall}
    {backend : Backend}
    (h : (createNewUserNameInFireBase challenge call.user call.outcomes backend).1 =
      .returned true) :
    ∃ uid dictionary, call.outcomes.createUser.1 = some uid ∧
      (createNewUserNameInFireBase challenge call.user call.outcomes backend).2.documents uid =
        some dictionary ∧
      (UserModel.ofDictionary dictionary = call.user.model uid call.imageURL ↔
        ∀ fullName ∈ call.user.fullName, fullName = "") := by
  obtain ⟨uid, created, written⟩ := written_document h
  refine ⟨uid, _, created, written, ?_⟩
  rw [ofDictionary_document]
  constructor
  · intro same fullName hf
    have := congrArg UserModel.fullName same
    rw [NewUser.model, Option.mem_def.mp hf] at this
    exact this.symm
  · intro empty
    have : call.user.fullName.getD "" = "" := by
      cases hf : call.user.fullName with
      | none => rfl
      | some fullName => exact empty fullName hf
    rw [NewUser.model, this]

/-- A user with a name, a user name and a picture; every step succeeds. -/
def annaCall (fullName : Option String) : CreateCall where
  user := ⟨"ann@x", "secret", fullName, some "ann", some .empty⟩
  outcomes := ⟨(some "u1", none), (some (), none), (some "avatars/u1", none), none⟩

theorem user_document_round_trips_iff_nameless :
    ∃ dictionary, (createNewUserNameInFireBase id (annaCall none).user (annaCall none).outcomes
        noBackend).2.documents "u1" = some dictionary ∧
      UserModel.ofDictionary dictionary = ⟨"ann@x", "", "ann", "avatars/u1", "u1"⟩ := by
  obtain ⟨uid, dictionary, created, written, iff⟩ :=
    @user_document_round_trips_iff id (annaCall none) noBackend rfl
  obtain rfl : "u1" = uid := Option.some.inj created
  exact ⟨dictionary, written, iff.mpr nofun⟩

/-- **The full name is lost**: written as "Ann Lee", read back as the empty string. -/
theorem full_name_lost :
    let r := createNewUserNameInFireBase id (annaCall (some "Ann Lee")).user
      (annaCall (some "Ann Lee")).outcomes noBackend
    r.1 = .returned true ∧ ∃ dictionary, r.2.documents "u1" = some dictionary ∧
      dictionary.string "fullname" = "Ann Lee" ∧
      (UserModel.ofDictionary dictionary).fullName = "" ∧
      UserModel.ofDictionary dictionary ≠
        (annaCall (some "Ann Lee")).user.model "u1" (annaCall (some "Ann Lee")).imageURL :=
  ⟨rfl, _, rfl, rfl, rfl, by decide⟩

end ArtExhibition
