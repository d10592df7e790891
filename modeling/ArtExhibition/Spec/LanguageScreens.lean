import ArtExhibition.Spec.Localizable

/-!
# The screens that show the language

The labels of `CustomTabBar` and of `SettingsViewController` are written when their views load,
and again by the handlers of the change notification, which is posted and handled on the main
thread within the call of `setCurrentLanguage`. `LanguageScreens` has any number of loaded
controllers; a controller has no labels on screen before its `viewDidLoad`.

`SwitchScreen` is the settings screen with its Japanese switch.
-/

namespace ArtExhibition

inductive TabItem
  | home | news | audio | graph | settings
  deriving DecidableEq, Repr

/-- The key behind `TabItem.rawValue`. -/
def TabItem.key : TabItem → LocalizableKey
  | .home => .text_home
  | .news => .text_news
  | .audio => .text_audio
  | .graph => .text_graph
  | .settings => .text_settings

/-- The app's bundle, and Foundation's `capitalized(with: nil)`. -/
structure LanguageSetup where
  bundle : Bundle
  capitalized : String → String

variable (setup : LanguageSetup)

def TabItem.rawValue (stored : Option String) (item : TabItem) : String :=
  LocalizableManager.getLocalizableString setup.bundle stored item.key

def TabItem.displayTitle (stored : Option String) (item : TabItem) : String :=
  setup.capitalized (item.rawValue setup stored)

/-- A `BaseTabBarController` with the texts of its custom tab bar's `labelArray`. -/
structure BaseTabBarController where
  tabbarItems : List TabItem
  labelArray : List String
  /-- registered for the change notification -/
  observes : Bool
  deriving DecidableEq, Repr

/-- The labels that `CustomTabBar.init(menuItems:frame:)` makes, one for each item. -/
def CustomTabBar.labels (stored : Option String) (menuItems : List TabItem) : List String :=
  menuItems.map (TabItem.displayTitle setup stored)

/-- `BaseTabBarController.viewDidLoad`: `loadTabBar`, then `observeLanguagesChange`. -/
def BaseTabBarController.viewDidLoad (stored : Option String) : BaseTabBarController :=
  let tabbarItems := [.home, .news, .audio, .graph, .settings]
  ⟨tabbarItems, CustomTabBar.labels setup stored tabbarItems, true⟩

/-- `translateNameForTabItemLabel(items:)`: the labels afterwards; `none` when `labelArray[index]` is
out of range. -/
def translateNameForTabItemLabel (stored : Option String) : List TabItem → List String → Option (List String)
  | [], labelArray => some labelArray
  | _ :: _, [] => none
  | item :: items, _ :: labelArray =>
    (translateNameForTabItemLabel stored items labelArray).map (item.displayTitle setup stored :: ·)

/-- What the change notification does to a tab bar controller. -/
def BaseTabBarController.translate (stored : Option String) (controller : BaseTabBarController) :
    Option BaseTabBarController :=
  if controller.observes then
    (translateNameForTabItemLabel setup stored controller.tabbarItems controller.labelArray).map
      fun labelArray => { controller with labelArray := labelArray }
  else some controller

/-- A `SettingsViewController` with the texts of its four labels. -/
structure SettingsViewController where
  faceIDLabel : Option String
  darkModeLabel : Option String
  textFontLabel : Option String
  languagesLabel : Option String
  observes : Bool
  deriving DecidableEq, Repr

def SettingsViewController.translateLanguagesInSettingsVC (stored : Option String)
    (controller : SettingsViewController) : SettingsViewController :=
  let text := LocalizableManager.getLocalizableString setup.bundle stored
  { controller with
    faceIDLabel := some (text .text_faceID)
    darkModeLabel := some (text .text_dark_mode)
    textFontLabel := some (text .text_font_size)
    languagesLabel := some (text .text_languages) }

/-- `setupUI`: `observeLanguagesChange`, then the first translation. -/
def SettingsViewController.setupUI (stored : Option String) : SettingsViewController :=
  (SettingsViewController.mk none none none none true).translateLanguagesInSettingsVC setup stored

/-- What the change notification does to a settings controller. -/
def SettingsViewController.translate (stored : Option String) (controller : SettingsViewController) :
    SettingsViewController :=
  if controller.observes then controller.translateLanguagesInSettingsVC setup stored else controller

structure LanguageScreens where
  stored : Option String
  tabBars : List BaseTabBarController
  settings : List SettingsViewController
  /-- how often the change notification has been posted -/
  posts : Nat
  trapped : Bool
  deriving DecidableEq, Repr

/-- The app before its screens have loaded, with whatever was stored. -/
def LanguageScreens.launch (stored : Option String) : LanguageScreens := ⟨stored, [], [], 0, false⟩

/-- `NotificationCenter.default.post`. -/
def LanguageScreens.post (s : LanguageScreens) : LanguageScreens :=
  match s.tabBars.mapM (BaseTabBarController.translate setup s.stored) with
  | some tabBars => { s with
      tabBars := tabBars
      settings := s.settings.map (SettingsViewController.translate setup s.stored)
      posts := s.posts + 1 }
  | none => { s with posts := s.posts + 1, trapped := true }

inductive LanguageEvent
  | call (call : LanguageCall)
  | loadTabBarController
  | loadSettings
  /-- a controller is released -/
  | deinitTabBarController (i : Nat)
  | deinitSettings (i : Nat)
  deriving DecidableEq, Repr

/-- **One event.** -/
def LanguageScreens.step (s : LanguageScreens) (e : LanguageEvent) : Option LanguageScreens :=
  if s.trapped then none else
  match e with
  | .call call =>
    let (stored, posted) := call.perform setup.bundle s.stored
    -- the value is stored before the post
    some (if posted then { s with stored := stored }.post setup else { s with stored := stored })
  | .loadTabBarController =>
    some { s with tabBars := s.tabBars ++ [.viewDidLoad setup s.stored] }
  | .loadSettings => some { s with settings := s.settings ++ [.setupUI setup s.stored] }
  | .deinitTabBarController i => some { s with tabBars := s.tabBars.eraseIdx i }
  | .deinitSettings i => some { s with settings := s.settings.eraseIdx i }

/-! ## The Japanese switch -/

/-- `SettingsViewModel.changeLanguages`: the language stored afterwards. -/
def changeLanguages (bundle : Bundle) (stored : Option String) (switchOn : Bool) : Option String :=
  if switchOn then
    (LocalizableManager.setCurrentLanguage bundle stored Japanese.languageKey.rawValue).1
  else (LocalizableManager.resetCurrentLanguageToDefault bundle stored).1

/-- The settings screen there is, with the position of `japanesehSiwtch`. -/
structure SwitchScreen where
  stored : Option String
  isOn : Bool
  deriving DecidableEq, Repr

/-- A new settings screen. -/
def SwitchScreen.create (bundle : Bundle) (stored : Option String) : SwitchScreen :=
  ⟨stored, LocalizableManager.currentLanguage bundle stored ≠ LocalizableManager.defaultLanguage bundle⟩

inductive SwitchEvent
  /-- `handleEventFromJapaneseSwitch`, with the switch in its new position -/
  | toggle
  | create
  deriving DecidableEq, Repr

def SwitchScreen.step (bundle : Bundle) (screen : SwitchScreen) : SwitchEvent → Option SwitchScreen
  | .toggle => some ⟨changeLanguages bundle screen.stored (!screen.isOn), !screen.isOn⟩
  | .create => some (.create bundle screen.stored)

end ArtExhibition
