import ArtExhibition.Machine.Slots
import ArtExhibition.Proof.Languages

/-!
# Visible labels follow the language

The labels of every loaded controller are those of the current language (`LanguageScreens.Current`)
in every reachable state: the change notification is posted with every change, after the new
language is stored, and every loaded controller observes it. A tab bar has as many labels as
items, so the handler's subscript is never out of range (`translateNameForTabItemLabel_eq`).

What the labels read in a language is written out in `labelsIn`; that it is what `TabItem.rawValue`
and `getLocalizableString` look up is `tabs_stringIn` and `settings_stringIn`. `labels_follow` is for
every run, with the posts counted at every call.
-/

namespace ArtExhibition

open Machine LocalizableManager

variable {setup : LanguageSetup} {stored : Option String} {s s' : LanguageScreens} {e : LanguageEvent}

/-- The texts of the labels in one language. -/
structure LabelTexts where
  /-- of the tabs, from left to right -/
  tabs : List String
  faceID : String
  darkMode : String
  textFont : String
  languages : String

def englishLabels : LabelTexts :=
  ⟨["Home", "News", "Audios", "Graphs", "Settings"], "Face ID", "Dark mode", "Font size", "Languages"⟩

def japaneseLabels : LabelTexts :=
  ⟨["家", "ニュース", "オーディオ", "グラフ", "設定"], "顔認証", "ダークモード", "フォントサイズ", "言語"⟩

/-- There are strings for English and Japanese; in any other language the labels are empty. -/
def labelsIn (language : String) : LabelTexts :=
  if language = "en" then englishLabels
  else if language = "ja" then japaneseLabels
  else ⟨["", "", "", "", ""], "", "", "", ""⟩

/-- The five tabs, each with its label: the capitalized text in the current language. -/
structure BaseTabBarController.Current (setup : LanguageSetup) (stored : Option String)
    (controller : BaseTabBarController) : Prop where
  observes : controller.observes = true
  tabbarItems : controller.tabbarItems = [.home, .news, .audio, .graph, .settings]
  labelArray : controller.labelArray =
    (labelsIn (currentLanguage setup.bundle stored)).tabs.map setup.capitalized

/-- The four labels, each with its text in the current language. -/
structure SettingsViewController.Current (setup : LanguageSetup) (stored : Option String)
    (controller : SettingsViewController) : Prop where
  observes : controller.observes = true
  faceID : controller.faceIDLabel = some (labelsIn (currentLanguage setup.bundle stored)).faceID
  darkMode : controller.darkModeLabel = some (labelsIn (currentLanguage setup.bundle stored)).darkMode
  textFont : controller.textFontLabel = some (labelsIn (currentLanguage setup.bundle stored)).textFont
  languages : controller.languagesLabel = some (labelsIn (currentLanguage setup.bundle stored)).languages

/-- **All labels on screen are in the current language.** -/
structure LanguageScreens.Current (setup : LanguageSetup) (s : LanguageScreens) : Prop where
  running : s.trapped = false
  tabBars : ∀ controller ∈ s.tabBars, controller.Current setup s.stored
  settings : ∀ controller ∈ s.settings, controller.Current setup s.stored

/-- The notification is posted exactly at the calls that change the current language. -/
def PostsOnChange (setup : LanguageSetup) (s : LanguageScreens) : LanguageEvent → Prop
  | .call call => ∀ s' ∈ s.step setup (.call call), s'.posts = s.posts +
      if currentLanguage setup.bundle s'.stored ≠ currentLanguage setup.bundle s.stored then 1 else 0
  | e => ∀ s' ∈ s.step setup e, s'.posts = s.posts ∧ s'.stored = s.stored

/-! ## What is looked up -/

/-- What `getLocalizableString` looks up, by the current language. -/
def stringIn (language : String) (key : LocalizableKey) : String :=
  if language = "en" then English.getString key
  else if language = "ja" then Japanese.getString key
  else ""

/-- The strings of the tabs' keys. -/
theorem tabs_stringIn (language : String) :
    [TabItem.home, .news, .audio, .graph, .settings].map (fun item => stringIn language item.key) =
      (labelsIn language).tabs := by
  unfold stringIn labelsIn
  split
  · rfl
  · split <;> rfl

/-- The strings of the four keys of the settings screen. -/
theorem settings_stringIn (language : String) :
    stringIn language .text_faceID = (labelsIn language).faceID ∧
      stringIn language .text_dark_mode = (labelsIn language).darkMode ∧
      stringIn language .text_font_size = (labelsIn language).textFont ∧
      stringIn language .text_languages = (labelsIn language).languages := by
  unfold stringIn labelsIn
  split
  · exact ⟨rfl, rfl, rfl, rfl⟩
  · split <;> exact ⟨rfl, rfl, rfl, rfl⟩

/-- The titles of the tabs are those of the current language. -/
theorem displayTitle_labelsIn (setup : LanguageSetup) (stored : Option String) :
    [TabItem.home, .news, .audio, .graph, .settings].map (TabItem.displayTitle setup stored) =
      (labelsIn (currentLanguage setup.bundle stored)).tabs.map setup.capitalized := by
  rw [← tabs_stringIn, List.map_map]
  rfl

/-- A translation of the settings screen writes the texts of the current language. -/
theorem current_translateLanguages (setup : LanguageSetup) (stored : Option String)
    {controller : SettingsViewController} (h : controller.observes = true) :
    (controller.translateLanguagesInSettingsVC setup stored).Current setup stored := by
  obtain ⟨hfaceID, hdarkMode, htextFont, hlanguages⟩ :=
    settings_stringIn (currentLanguage setup.bundle stored)
  exact ⟨h, congrArg some hfaceID, congrArg some hdarkMode, congrArg some htextFont, congrArg some hlanguages⟩

/-! ## The handlers -/

/-- Over one label for each item, the loop writes every title. -/
theorem translateNameForTabItemLabel_eq {items : List TabItem} {labelArray : List String}
    (h : labelArray.length = items.length) :
    translateNameForTabItemLabel setup stored items labelArray =
      some (items.map (TabItem.displayTitle setup stored)) := by
  induction items generalizing labelArray with
  | nil => rw [List.length_eq_zero_iff.1 h]; rfl
  | cons item items ih =>
    cases labelArray with
    | nil => cases h
    | cons label labelArray =>
      have hlength : labelArray.length = items.length := Nat.succ.inj h
      rw [translateNameForTabItemLabel, ih hlength]
      rfl

/-- The handler of a tab bar puts its labels into the language then stored. -/
theorem translate_tabBar {controller : BaseTabBarController} (h : controller.Current setup stored)
    (stored' : Option String) :
    ∃ controller', controller.translate setup stored' = some controller' ∧
      controller'.Current setup stored' := by
  obtain ⟨hobserves, hitems, hlabels⟩ := h
  have hlength : controller.labelArray.length = controller.tabbarItems.length := by
    rw [hlabels, hitems, ← displayTitle_labelsIn, List.length_map]
  unfold BaseTabBarController.translate
  rw [if_pos hobserves, translateNameForTabItemLabel_eq hlength, hitems, displayTitle_labelsIn]
  exact ⟨_, rfl, hobserves, rfl, rfl⟩

/-- And so does the handler of the settings screen. -/
theorem translate_settings {controller : SettingsViewController} (h : controller.observes = true)
    (stored : Option String) : (controller.translate setup stored).Current setup stored := by
  unfold SettingsViewController.translate
  rw [if_pos h]
  exact current_translateLanguages setup stored h

/-- **A post after a change** leaves all labels in the new language. -/
theorem current_post (h : s.Current setup) (stored : Option String) :
    (LanguageScreens.post setup { s with stored := stored }).Current setup ∧
      (LanguageScreens.post setup { s with stored := stored }).stored = stored ∧
      (LanguageScreens.post setup { s with stored := stored }).posts = s.posts + 1 := by
  have hall : ∀ tabBars : List BaseTabBarController,
      (∀ controller ∈ tabBars, controller.Current setup s.stored) →
      ∃ tabBars', tabBars.mapM (BaseTabBarController.translate setup stored) = some tabBars' ∧
        ∀ controller ∈ tabBars', controller.Current setup stored := by
    intro tabBars
    induction tabBars with
    | nil => exact fun _ => ⟨[], rfl, fun _ h => by cases h⟩
    | cons controller tabBars ih =>
      intro htabBars
      obtain ⟨controller', htranslate, hcurrent⟩ :=
        translate_tabBar (htabBars controller List.mem_cons_self) stored
      obtain ⟨tabBars', hmap, hcurrents⟩ := ih fun other hmem => htabBars other (List.mem_cons_of_mem _ hmem)
      refine ⟨controller' :: tabBars', ?_, List.forall_mem_cons.2 ⟨hcurrent, hcurrents⟩⟩
      rw [List.mapM_cons, htranslate, hmap]
      rfl
  obtain ⟨tabBars', hmap, hcurrents⟩ := hall s.tabBars h.tabBars
  have hpost : LanguageScreens.post setup { s with stored := stored } =
      { s with
        stored := stored
        tabBars := tabBars'
        settings := s.settings.map (SettingsViewController.translate setup stored)
        posts := s.posts + 1 } := by
    unfold LanguageScreens.post
    dsimp only
    rw [hmap]
  rw [hpost]
  refine ⟨⟨h.running, hcurrents, fun controller hmem => ?_⟩, rfl, rfl⟩
  obtain ⟨old, hold, rfl⟩ := List.mem_map.1 hmem
  exact translate_settings (h.settings old hold).observes stored

/-! ## One event -/

/-- A call stores a language, posted or not, as `setCurrentLanguage` does. -/
theorem perform_eq (bundle : Bundle) (stored : Option String) (call : LanguageCall) :
    ∃ language, call.perform bundle stored = setCurrentLanguage bundle stored language := by
  cases call with
  | setCurrentLanguage language => exact ⟨language, rfl⟩
  | resetCurrentLanguageToDefault => exact ⟨defaultLanguage bundle, rfl⟩

/-- A call that posts nothing has stored nothing new. -/
theorem setCurrentLanguage_unposted {bundle : Bundle} {language : String}
    (h : (setCurrentLanguage bundle stored language).2 = false) :
    (setCurrentLanguage bundle stored language).1 = stored := by
  rw [setCurrentLanguage_eq] at h ⊢
  by_cases hne : selectedLanguage bundle language ≠ currentLanguage bundle stored
  · rw [if_pos hne] at h
    cases h
  · rw [if_neg hne]

/-- **One event keeps the labels current, and posts exactly when it changes the language.** -/
theorem current_step (h : s.Current setup) (hs : s.step setup e = some s') :
    s'.Current setup ∧ PostsOnChange setup s e := by
  have hstep := hs
  unfold LanguageScreens.step at hs
  rw [if_neg (by simp [h.running])] at hs
  cases e with
  | call call =>
    obtain ⟨language, hperform⟩ := perform_eq setup.bundle s.stored call
    simp only [hperform] at hs
    have hposts := setCurrentLanguage_posts setup.bundle s.stored language
    have hchange : s'.Current setup ∧ s'.posts = s.posts +
        if currentLanguage setup.bundle s'.stored ≠ currentLanguage setup.bundle s.stored then 1 else 0 := by
      split at hs
      · rename_i hposted
        obtain rfl := Option.some.inj hs
        obtain ⟨hcurrent, hstored, hcount⟩ :=
          current_post h (setCurrentLanguage setup.bundle s.stored language).1
        exact ⟨hcurrent, by rw [hcount, hstored, if_pos (hposts.1 hposted)]⟩
      · rename_i hposted
        obtain rfl := Option.some.inj hs
        have hsame := setCurrentLanguage_unposted (by simpa using hposted)
        refine ⟨⟨h.running, ?_, ?_⟩, ?_⟩
        · rw [hsame]
          exact h.tabBars
        · rw [hsame]
          exact h.settings
        · rw [if_neg fun hne => hposted (hposts.2 hne), Nat.add_zero]
    refine ⟨hchange.1, fun other hother => ?_⟩
    obtain rfl := Option.some.inj (hstep.symm.trans hother)
    exact hchange.2
  | loadTabBarController =>
    obtain rfl := Option.some.inj hs
    refine ⟨⟨h.running, forall_mem_snoc_iff.2 ⟨h.tabBars, rfl, rfl, displayTitle_labelsIn setup s.stored⟩,
      h.settings⟩, fun other hother => ?_⟩
    obtain rfl := Option.some.inj (hstep.symm.trans hother)
    exact ⟨rfl, rfl⟩
  | loadSettings =>
    obtain rfl := Option.some.inj hs
    refine ⟨⟨h.running, h.tabBars,
      forall_mem_snoc_iff.2 ⟨h.settings, current_translateLanguages setup s.stored rfl⟩⟩,
      fun other hother => ?_⟩
    obtain rfl := Option.some.inj (hstep.symm.trans hother)
    exact ⟨rfl, rfl⟩
  | deinitTabBarController i =>
    obtain rfl := Option.some.inj hs
    refine ⟨⟨h.running, fun controller hmem => h.tabBars controller (List.mem_of_mem_eraseIdx hmem),
      h.settings⟩, fun other hother => ?_⟩
    obtain rfl := Option.some.inj (hstep.symm.trans hother)
    exact ⟨rfl, rfl⟩
  | deinitSettings i =>
    obtain rfl := Option.some.inj hs
    refine ⟨⟨h.running, h.tabBars, fun controller hmem => h.settings controller (List.mem_of_mem_eraseIdx hmem)⟩,
      fun other hother => ?_⟩
    obtain rfl := Option.some.inj (hstep.symm.trans hother)
    exact ⟨rfl, rfl⟩

/-! ## Runs -/

theorem current_launch (stored : Option String) : (LanguageScreens.launch stored).Current setup :=
  ⟨rfl, fun _ h => (by cases h), fun _ h => (by cases h)⟩

/-- **Visible labels follow the language.** In every state that any calls, with any arguments, and any
loading and releasing of the controllers reach, over any stored choice, all labels are in the
current language; and the notification is posted exactly at the calls that change it. -/
theorem labels_follow {events : List LanguageEvent}
    (h : run (LanguageScreens.step setup) (.launch stored) events = some s) :
    s.Current setup ∧ Along (LanguageScreens.step setup) (PostsOnChange setup) (.launch stored) events := by
  refine ⟨run_inv (fun s e s' hs hstep => (current_step hs hstep).1) events (current_launch stored) h, ?_⟩
  exact along_of_run (fun s e s' => current_step) events (current_launch stored) h

/-- The app's screens on an English device, through Japanese, Base and back. -/
def languageRun : List LanguageEvent :=
  [.loadTabBarController, .loadSettings, .call (.setCurrentLanguage "ja"), .call (.setCurrentLanguage "ja"),
    .call (.setCurrentLanguage "Base"), .loadSettings, .call .resetCurrentLanguageToDefault]

theorem labels_follow_languageRun : ∃ s,
    run (LanguageScreens.step ⟨englishDevice, id⟩) (.launch none) languageRun = some s ∧
      s.Current ⟨englishDevice, id⟩ ∧ s.posts = 3 ∧ s.stored = some "en" := by
  obtain ⟨s, h, hposts, hstored⟩ : ∃ s,
      run (LanguageScreens.step ⟨englishDevice, id⟩) (.launch none) languageRun = some s ∧
        s.posts = 3 ∧ s.stored = some "en" := ⟨_, rfl, rfl, rfl⟩
  exact ⟨s, h, (labels_follow h).1, hposts, hstored⟩

end ArtExhibition
