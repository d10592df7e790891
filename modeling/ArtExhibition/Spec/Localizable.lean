import Mathlib.Data.List.Basic
import Mathlib.Tactic.Common

/-!
# The languages of the app

`LocalizableManager` with the two string tables. The languages that can be selected are the
localizations of the bundle; those that have strings are `English` and `Japanese`. The bundle
and the device's preferred localizations are fixed while the app runs, and `UserDefaults`
keeps the selected language.

Names of languages are compared by code points. Swift compares strings up to canonical equivalence;
no other string is equivalent to a name of this bundle (en, Base, ja).
-/

namespace ArtExhibition

/-- The texts of the app, by key. -/
inductive LocalizableKey
  | text_home | text_news | text_audio
  | text_graph | text_settings | text_faceID
  | text_languages | text_dark_mode | text_font_size
  | text_lack_of_username_alert | text_lack_of_password_alert
  | text_lack_of_password_confirmation_alert
  | text_differences_between_passwords | text_wrong_username | text_wrong_passowrd
  | text_login_by_google | text_login_by_facebook | text_login_by_apple
  | text_login_by_zalo | text_login | text_wrong_format_password
  | text_enroll | text_cancel | text_public_features
  | text_advanced_features | text_chat_feature | text_map_feature
  | text_eKYC_feature | text_AR_feature
  deriving DecidableEq, Repr

def LocalizableKey.rawValue : LocalizableKey → String
  | .text_home => "Home"
  | .text_news => "News"
  | .text_audio => "Audios"
  | .text_graph => "Graphs"
  | .text_settings => "Settings"
  | .text_faceID => "Face ID"
  | .text_languages => "Languages"
  | .text_dark_mode => "Dark mode"
  | .text_font_size => "Font size"
  | .text_lack_of_username_alert => "Please enter your username!"
  | .text_lack_of_password_alert => "Please enter your password!"
  | .text_lack_of_password_confirmation_alert => "Please confirm your password!"
  | .text_differences_between_passwords => "Please correct your confirmation password!"
  | .text_wrong_username => "Please check your username!"
  | .text_wrong_passowrd => "Please check your password!"
  | .text_login_by_google => "Log In by Google"
  | .text_login_by_facebook => "Log In by Facebook"
  | .text_login_by_apple => "Log In by Apple"
  | .text_login_by_zalo => "Log In by Zalo"
  | .text_login => "Log In"
  | .text_wrong_format_password =>
    "Pasword must contain at least 1 Uppercase, 1 Lowercase, 1 Special Characters, 1 Number, " ++
      "and Total 12 Characters! Please check it again!"
  | .text_enroll => "ENROLL"
  | .text_cancel => "CANCEL"
  | .text_public_features => "Public features"
  | .text_advanced_features => "Advanced features"
  | .text_chat_feature => "Chat feature"
  | .text_map_feature => "Map feature"
  | .text_eKYC_feature => "EKYC feature"
  | .text_AR_feature => "AR feature"

inductive LanguageKey
  | english | japanese
  deriving DecidableEq, Repr

def LanguageKey.rawValue : LanguageKey → String
  | .english => "en"
  | .japanese => "ja"

def English.languageKey : LanguageKey := .english

def English.getString (key : LocalizableKey) : String := key.rawValue

def Japanese.languageKey : LanguageKey := .japanese

def Japanese.getString : LocalizableKey → String
  | .text_home => "家"
  | .text_news => "ニュース"
  | .text_audio => "オーディオ"
  | .text_graph => "グラフ"
  | .text_settings => "設定"
  | .text_faceID => "顔認証"
  | .text_languages => "言語"
  | .text_dark_mode => "ダークモード"
  | .text_font_size => "フォントサイズ"
  | .text_lack_of_username_alert => "ユーザー名を入力してください!"
  | .text_lack_of_password_alert => "パスワードを入力してください"
  | .text_lack_of_password_confirmation_alert => "パスワードを確認してください。!"
  | .text_differences_between_passwords => "確認パスワードを修正してください。!"
  | .text_wrong_username => "ユーザー名を確認してください。!"
  | .text_wrong_passowrd => "パスワードを確認してください。!"
  | .text_login_by_google => "Google でログイン"
  | .text_login_by_facebook => "Facebook でログイン"
  | .text_login_by_apple => "Apple でログイン"
  | .text_login_by_zalo => "Zalo でログイン"
  | .text_login => "でログイン"
  | .text_wrong_format_password =>
    "パスワードには、少なくとも 1 つの大文字、1 つの小文字、1 つの特殊文字、1 つの数字、" ++
      "および合計 12 文字を含める必要があります。もう一度チェックしてください！"
  | .text_enroll => "登録"
  | .text_cancel => "キャンセル"
  | .text_public_features => "公共の機能"
  | .text_advanced_features => "高度な機能"
  | .text_chat_feature => "チャット機能"
  | .text_map_feature => "マップ機能"
  | .text_eKYC_feature => "EKYC 機能"
  | .text_AR_feature => "AR 機能"

/-- The localizations of the bundle, and those the device prefers among them. The project has the
regions Base and ja. -/
structure Bundle where
  localizations : List String
  preferredLocalizations : List String
  hasBase : "Base" ∈ localizations
  hasJapanese : "ja" ∈ localizations

namespace LocalizableManager

def LCLDefaultLanguage : String := English.languageKey.rawValue

def availableLanguages (bundle : Bundle) (excludeBase : Bool) : List String :=
  -- `remove(at: firstIndex(of: "Base"))`
  if excludeBase then bundle.localizations.erase "Base" else bundle.localizations

def defaultLanguage (bundle : Bundle) : String :=
  match bundle.preferredLocalizations.head? with
  | none => LCLDefaultLanguage
  | some preferredLanguage =>
    if preferredLanguage ∈ availableLanguages bundle false then preferredLanguage
    else LCLDefaultLanguage

/-- `stored` is the string that `UserDefaults` has under `LCLCurrentLanguageKey`, if any. -/
def currentLanguage (bundle : Bundle) (stored : Option String) : String :=
  match stored with
  | some language => language
  | none => defaultLanguage bundle

/-- What is stored afterwards, and whether the change notification is posted. -/
def setCurrentLanguage (bundle : Bundle) (stored : Option String) (language : String) :
    Option String × Bool :=
  let selectedLanguage :=
    if language ∈ availableLanguages bundle false then language else defaultLanguage bundle
  if selectedLanguage ≠ currentLanguage bundle stored then (some selectedLanguage, true)
  else (stored, false)

def resetCurrentLanguageToDefault (bundle : Bundle) (stored : Option String) : Option String × Bool :=
  setCurrentLanguage bundle stored (defaultLanguage bundle)

def getLocalizableString (bundle : Bundle) (stored : Option String) (key : LocalizableKey) : String :=
  if currentLanguage bundle stored = English.languageKey.rawValue then English.getString key
  else if currentLanguage bundle stored = Japanese.languageKey.rawValue then Japanese.getString key
  else ""

end LocalizableManager

/-- A call that changes the language. -/
inductive LanguageCall
  | setCurrentLanguage (language : String)
  | resetCurrentLanguageToDefault
  deriving DecidableEq, Repr

def LanguageCall.perform (bundle : Bundle) (stored : Option String) : LanguageCall → Option String × Bool
  | .setCurrentLanguage language => LocalizableManager.setCurrentLanguage bundle stored language
  | .resetCurrentLanguageToDefault => LocalizableManager.resetCurrentLanguageToDefault bundle stored

/-- **One call**; every call can be made in every state. -/
def languageStep (bundle : Bundle) (stored : Option String) (call : LanguageCall) :
    Option (Option String) :=
  some (call.perform bundle stored).1

end ArtExhibition
