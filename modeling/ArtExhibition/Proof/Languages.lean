import ArtExhibition.Machine.Run
import ArtExhibition.Spec.LanguageScreens

/-!
# Which languages have strings, and what the Japanese switch says

* `translated_iff`: from fresh defaults every text has a string after every call exactly when the
  preferred localization and every selected one, if the bundle has it, is English or Japanese.
  Base is one that is not (`base_selected`).
* `switch_iff`: the switch tells whether the language is Japanese, through any toggles and new
  screens, exactly when the default language is not Japanese and what was stored is Japanese
  or the default. A device that prefers Japanese breaks it (`japanese_device`).
-/

namespace ArtExhibition

open Machine LocalizableManager

variable {bundle : Bundle} {stored : Option String}

/-! ## Selecting a language -/

/-- What a call of `setCurrentLanguage` selects. -/
def selectedLanguage (bundle : Bundle) (language : String) : String :=
  if language ∈ bundle.localizations then language else defaultLanguage bundle

theorem setCurrentLanguage_eq (bundle : Bundle) (stored : Option String) (language : String) :
    setCurrentLanguage bundle stored language =
      if selectedLanguage bundle language ≠ currentLanguage bundle stored then
        (some (selectedLanguage bundle language), true)
      else (stored, false) := rfl

/-- **After a call the selected language is the current one.** -/
theorem currentLanguage_setCurrentLanguage (bundle : Bundle) (stored : Option String) (language : String) :
    currentLanguage bundle (setCurrentLanguage bundle stored language).1 = selectedLanguage bundle language := by
  rw [setCurrentLanguage_eq]
  split
  · rfl
  · rename_i hsame
    exact (not_not.1 hsame).symm

/-- The notification is posted exactly when the language changes. -/
theorem setCurrentLanguage_posts (bundle : Bundle) (stored : Option String) (language : String) :
    (setCurrentLanguage bundle stored language).2 = true ↔
      currentLanguage bundle (setCurrentLanguage bundle stored language).1 ≠ currentLanguage bundle stored := by
  rw [currentLanguage_setCurrentLanguage, setCurrentLanguage_eq]
  split
  · rename_i hne
    exact iff_of_true rfl hne
  · rename_i hsame
    exact iff_of_false Bool.false_ne_true hsame

/-- A reset selects the default language, whether or not the bundle has it. -/
theorem selectedLanguage_default (bundle : Bundle) :
    selectedLanguage bundle (defaultLanguage bundle) = defaultLanguage bundle := by
  unfold selectedLanguage
  split <;> rfl

/-! ## Languages with strings -/

/-- The languages that have a string table. -/
def translatedLanguages : List String := [English.languageKey.rawValue, Japanese.languageKey.rawValue]

/-- Every text has a string in the current language. -/
def Translated (bundle : Bundle) (stored : Option String) : Prop :=
  ∀ key, getLocalizableString bundle stored key ≠ ""

theorem english_getString_ne (key : LocalizableKey) : English.getString key ≠ "" := by
  cases key <;> decide

theorem japanese_getString_ne (key : LocalizableKey) : Japanese.getString key ≠ "" := by
  cases key <;> decide

/-- **Every text has a string exactly when the current language has a table.** -/
theorem translated_iff_mem : Translated bundle stored ↔ currentLanguage bundle stored ∈ translatedLanguages := by
  unfold Translated getLocalizableString translatedLanguages
  rw [List.mem_pair]
  split
  · rename_i h
    exact iff_of_true english_getString_ne (.inl h)
  · rename_i henglish
    split
    · rename_i h
      exact iff_of_true japanese_getString_ne (.inr h)
    · rename_i hjapanese
      exact iff_of_false (fun h => h .text_home rfl) (not_or.2 ⟨henglish, hjapanese⟩)

/-- The condition on a language that is selected or preferred: if the bundle has it, it has strings. -/
def Bundle.Offers (bundle : Bundle) (language : String) : Prop :=
  language ∈ bundle.localizations → language ∈ translatedLanguages

/-- The condition on a call. -/
def LanguageCall.Offered (bundle : Bundle) : LanguageCall → Prop
  | .setCurrentLanguage language => bundle.Offers language
  | .resetCurrentLanguageToDefault => True

theorem defaultLanguage_translated_iff (bundle : Bundle) :
    defaultLanguage bundle ∈ translatedLanguages ↔
      ∀ preferred ∈ bundle.preferredLocalizations.head?, bundle.Offers preferred := by
  have henglish : LCLDefaultLanguage ∈ translatedLanguages := List.mem_cons_self
  unfold defaultLanguage
  cases bundle.preferredLocalizations.head? with
  | none => simpa using henglish
  | some preferred =>
    simp only [Option.mem_some_iff, forall_eq']
    unfold availableLanguages Bundle.Offers
    simp only [Bool.false_eq_true, if_false]
    split
    · rename_i h
      exact ⟨fun hmem _ => hmem, fun hoffers => hoffers h⟩
    · rename_i h
      exact iff_of_true henglish fun hmem => absurd hmem h

/-- **One call keeps every text a string exactly when it meets the condition.** -/
theorem translated_perform_iff (hdefault : defaultLanguage bundle ∈ translatedLanguages) (call : LanguageCall) :
    Translated bundle (call.perform bundle stored).1 ↔ call.Offered bundle := by
  rw [translated_iff_mem]
  cases call with
  | setCurrentLanguage language =>
    rw [LanguageCall.perform, currentLanguage_setCurrentLanguage]
    unfold selectedLanguage LanguageCall.Offered Bundle.Offers
    split
    · rename_i h
      exact ⟨fun hmem _ => hmem, fun hoffers => hoffers h⟩
    · rename_i h
      exact iff_of_true hdefault fun hmem => absurd hmem h
  | resetCurrentLanguageToDefault =>
    rw [LanguageCall.perform, resetCurrentLanguageToDefault, currentLanguage_setCurrentLanguage,
      selectedLanguage_default]
    exact iff_of_true hdefault trivial

/-- **Every selectable language has its strings exactly when the bundle offers no other.** From
fresh defaults: at the start and after every call, exactly when the preferred localization and the
argument of every `setCurrentLanguage`, if the bundle has them, are English or Japanese. -/
theorem translated_iff (bundle : Bundle) (calls : List LanguageCall) :
    (Translated bundle none ∧ Along (languageStep bundle)
        (fun stored call => ∀ stored' ∈ languageStep bundle stored call, Translated bundle stored') none calls) ↔
      (∀ preferred ∈ bundle.preferredLocalizations.head?, bundle.Offers preferred) ∧
        ∀ call ∈ calls, call.Offered bundle := by
  rw [← defaultLanguage_translated_iff, translated_iff_mem]
  refine and_congr_right fun hdefault => ?_
  refine along_iff_forall_mem (I := fun _ => True) (fun _ _ => rfl) (fun _ _ _ _ => trivial) ?_ calls trivial
  intro stored call _
  rw [← @translated_perform_iff bundle stored hdefault call]
  simp [languageStep]

/-- The bundle of the app, on an English device. -/
def englishDevice : Bundle := ⟨["en", "Base", "ja"], ["en"], by decide, by decide⟩

/-- **Base can be selected and has no strings.** -/
theorem base_selected :
    ¬ Along (languageStep englishDevice)
        (fun stored call => ∀ stored' ∈ languageStep englishDevice stored call, Translated englishDevice stored')
        none [.setCurrentLanguage "Base"] ∧
      currentLanguage englishDevice (setCurrentLanguage englishDevice none "Base").1 = "Base" ∧
      getLocalizableString englishDevice (setCurrentLanguage englishDevice none "Base").1 .text_home = "" := by
  have htext : getLocalizableString englishDevice (setCurrentLanguage englishDevice none "Base").1 .text_home = "" := by
    decide
  exact ⟨fun h => h.1 _ rfl .text_home htext, by decide, htext⟩

/-! ## The Japanese switch -/

/-- **The switch means Japanese.** -/
def SwitchScreen.MeansJapanese (bundle : Bundle) (screen : SwitchScreen) : Prop :=
  screen.isOn = true ↔ currentLanguage bundle screen.stored = "ja"

/-- The language is Japanese or the default. -/
def TwoLanguages (bundle : Bundle) (stored : Option String) : Prop :=
  currentLanguage bundle stored = "ja" ∨ currentLanguage bundle stored = defaultLanguage bundle

/-- A toggle selects Japanese, which the bundle has, or the default. -/
theorem currentLanguage_changeLanguages (bundle : Bundle) (stored : Option String) (switchOn : Bool) :
    currentLanguage bundle (changeLanguages bundle stored switchOn) =
      if switchOn then "ja" else defaultLanguage bundle := by
  unfold changeLanguages
  cases switchOn with
  | true =>
    rw [if_pos rfl, if_pos rfl, currentLanguage_setCurrentLanguage]
    exact if_pos bundle.hasJapanese
  | false =>
    rw [if_neg Bool.false_ne_true, if_neg Bool.false_ne_true, resetCurrentLanguageToDefault,
      currentLanguage_setCurrentLanguage, selectedLanguage_default]

/-- A new screen has its switch right exactly when the default is not Japanese and the language is
one of the two. -/
theorem create_means_iff (bundle : Bundle) (stored : Option String) :
    (SwitchScreen.create bundle stored).MeansJapanese bundle ↔
      defaultLanguage bundle ≠ "ja" ∧ TwoLanguages bundle stored := by
  unfold SwitchScreen.MeansJapanese SwitchScreen.create TwoLanguages
  simp only [decide_eq_true_eq]
  by_cases hdefault : currentLanguage bundle stored = defaultLanguage bundle
  · rw [hdefault]
    simp [eq_comm]
  · by_cases hjapanese : currentLanguage bundle stored = "ja"
    · rw [hjapanese] at hdefault ⊢
      simp [hdefault, Ne.symm hdefault]
    · simp [hdefault, hjapanese]

/-- Once the switch can be trusted it stays so. -/
theorem switch_step (hdefault : defaultLanguage bundle ≠ "ja") {screen screen' : SwitchScreen} {e : SwitchEvent}
    (h : TwoLanguages bundle screen.stored) (hs : screen.step bundle e = some screen') :
    screen'.MeansJapanese bundle ∧ TwoLanguages bundle screen'.stored := by
  cases e with
  | toggle =>
    obtain rfl := Option.some.inj hs
    unfold SwitchScreen.MeansJapanese TwoLanguages
    dsimp only
    rw [currentLanguage_changeLanguages]
    cases screen.isOn with
    | false => simp
    | true => simpa using hdefault
  | create =>
    obtain rfl := Option.some.inj hs
    exact ⟨(create_means_iff bundle screen.stored).2 ⟨hdefault, h⟩, h⟩

/-- **The Japanese switch means Japanese exactly on a device whose default is another language, over
a stored choice of Japanese or the default.** From a new settings screen, over any stored choice:
at the start and after every toggle and every new screen. -/
theorem switch_iff (bundle : Bundle) (stored : Option String) (events : List SwitchEvent) :
    ((SwitchScreen.create bundle stored).MeansJapanese bundle ∧ Along (SwitchScreen.step bundle)
        (fun screen e => ∀ screen' ∈ screen.step bundle e, screen'.MeansJapanese bundle)
        (.create bundle stored) events) ↔
      defaultLanguage bundle ≠ "ja" ∧
        ∀ language ∈ stored, language = "ja" ∨ language = defaultLanguage bundle := by
  have hstored : TwoLanguages bundle stored ↔
      ∀ language ∈ stored, language = "ja" ∨ language = defaultLanguage bundle := by
    cases stored <;> simp [TwoLanguages, currentLanguage]
  rw [← hstored, create_means_iff]
  refine and_iff_left_of_imp fun ⟨hdefault, htwo⟩ => ?_
  refine along_of_inv (I := fun screen => TwoLanguages bundle screen.stored)
    (fun screen e screen' h _ hs => (switch_step hdefault h hs).2)
    (fun screen e h _ screen' hs => (switch_step hdefault h hs).1) events htwo (along_true _ events)

/-- The bundle of the app, on a Japanese device. -/
def japaneseDevice : Bundle := ⟨["en", "Base", "ja"], ["ja"], by decide, by decide⟩

/-- **On a Japanese device the switch is off in Japanese**, and turning it on and off again leaves
the language Japanese. -/
theorem japanese_device :
    ¬ (SwitchScreen.create japaneseDevice none).MeansJapanese japaneseDevice ∧
      (SwitchScreen.create japaneseDevice none).isOn = false ∧
      currentLanguage japaneseDevice none = "ja" ∧
      ∃ screen, run (SwitchScreen.step japaneseDevice) (.create japaneseDevice none) [.toggle, .toggle] = some screen ∧
        screen.isOn = false ∧ currentLanguage japaneseDevice screen.stored = "ja" := by
  refine ⟨fun h => ?_, by decide, by decide, _, rfl, by decide, by decide⟩
  have hon : (SwitchScreen.create japaneseDevice none).isOn = true := h.2 (by decide)
  revert hon
  decide

end ArtExhibition
