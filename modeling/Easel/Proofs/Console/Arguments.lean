import Easel.Console.Arguments
import Mathlib.Tactic.Common

/-!
Options and words among the arguments. Where the options stand makes no difference, whatever their values look like: each word reaches
the transcript in its place, and of an option that is given again the last value counts.
-/

namespace Easel.Console

/-- An option with its value, if it takes one. -/
inductive Setting
  | plugin (id : String)
  | url (address : String)
  | mock
  deriving DecidableEq

namespace Setting

def texts : Setting → List String
  | .plugin id => ["--plugin", id]
  | .url address => ["--api-url", address]
  | .mock => ["--mock"]

def plugin? : Setting → Option String
  | .plugin id => some id
  | _ => none

def url? : Setting → Option String
  | .url address => some address
  | _ => none

end Setting

/-- Settings and words, each in their order, mixed in any way. -/
inductive Mixed : List Setting → List String → List String → Prop
  | nil : Mixed [] [] []
  | setting {settings : List Setting} {words texts : List String} (s : Setting) (h : Mixed settings words texts) :
      Mixed (s :: settings) words (s.texts ++ texts)
  | word {settings : List Setting} {words texts : List String} (word : String) (h : Mixed settings words texts) :
      Mixed settings (word :: words) (word :: texts)

namespace Arguments

variable {a : Arguments} {settings : List Setting} {words texts rest : List String} {word : String}

/-- The arguments with one more setting. -/
def put (a : Arguments) : Setting → Arguments
  | .plugin id => { a with plugin := some id }
  | .url address => { a with url := some address }
  | .mock => { a with mock := true }

/-! ### One argument -/

/-- A value is taken as it is, also if it looks like an option or like the command. -/
theorem read_setting (s : Setting) : read a (s.texts ++ rest) = read (a.put s) rest := by
  cases s with
  | plugin id =>
    rw [Setting.texts, List.cons_append, List.cons_append, List.nil_append, read]
    rfl
  | url address =>
    rw [Setting.texts, List.cons_append, List.cons_append, List.nil_append, read]
    rfl
  | mock => simp [Setting.texts, read, put]

theorem read_send (h : a.sends = false) : read a ("send" :: rest) = read { a with sends := true } rest := by
  simp [read, h]

/-- Behind the command it is a word like another. -/
theorem read_word (h : a.sends = true) (hw : isOption word = false) :
    read a (word :: rest) = read { a with words := a.words ++ [word] } rest := by
  have hne {option : String} (ho : isOption option = true) : word ≠ option := by
    rintro rfl
    rw [hw] at ho
    cases ho
  have hurl : word ≠ "--api-url" := hne (by decide)
  have hplugin : word ≠ "--plugin" := hne (by decide)
  have hmock : word ≠ "--mock" := hne (by decide)
  have hhelp : word ≠ "--help" := hne (by decide)
  have hversion : word ≠ "--version" := hne (by decide)
  have hshort : word ≠ "-h" ∧ word ≠ "-v" := ⟨hne (by decide), hne (by decide)⟩
  rw [read]
  · simp [h, hw, hurl, hplugin, hmock, hhelp, hversion, hshort]
  · simp [hurl]
  · simp [hplugin]

/-! ### All arguments -/

/-- The last value of an option counts. -/
theorem foldl_put (settings : List Setting) (a : Arguments) : settings.foldl put a =
    { a with
      plugin := (settings.filterMap (·.plugin?)).getLast?.or a.plugin
      url := (settings.filterMap (·.url?)).getLast?.or a.url
      mock := a.mock || decide (.mock ∈ settings) } := by
  induction settings generalizing a with
  | nil => simp
  | cons s settings ih =>
    rw [List.foldl_cons, ih]
    cases s <;> simp [put, Setting.plugin?, Setting.url?, List.getLast?_cons]

theorem read_mixed (h : Mixed settings words texts) (hs : a.sends = true) (hw : ∀ word ∈ words, isOption word = false) :
    read a texts = .ok { settings.foldl put a with words := a.words ++ words } := by
  induction h generalizing a with
  | nil => simp [read]
  | setting s h ih =>
    have hput : (a.put s).sends = true ∧ (a.put s).words = a.words := by cases s <;> exact ⟨hs, rfl⟩
    rw [read_setting, ih hput.1 hw, hput.2, List.foldl_cons]
  | word word h ih =>
    obtain ⟨hword, hw⟩ := List.forall_mem_cons.1 hw
    have hnext : ({ a with words := a.words ++ [word] } : Arguments).sends = true := hs
    rw [read_word hs hword, ih hnext hw]
    simp [foldl_put]

/-- Up to the command there are settings only. -/
theorem read_mixed_send (h : Mixed settings ("send" :: words) texts) (hs : a.sends = false)
    (hw : ∀ word ∈ words, isOption word = false) :
    read a texts = .ok { settings.foldl put a with sends := true, words := a.words ++ words } := by
  generalize hall : "send" :: words = all at h
  induction h generalizing a with
  | nil => cases hall
  | setting s h ih =>
    have hput : (a.put s).sends = false ∧ (a.put s).words = a.words := by cases s <;> exact ⟨hs, rfl⟩
    rw [read_setting, ih hput.1 hall, hput.2, List.foldl_cons]
  | word word h ih =>
    cases hall
    have hsends : ({ a with sends := true } : Arguments).sends = true := rfl
    rw [read_send hs, read_mixed h hsends hw]
    simp [foldl_put]

/-- Options may stand anywhere among the command and its words. -/
theorem parse_mixed (h : Mixed settings ("send" :: words) texts) (hw : ∀ word ∈ words, word.toList.head? ≠ some '-') :
    parse texts = .ok
      { sends := true
        url := (settings.filterMap (·.url?)).getLast?
        plugin := (settings.filterMap (·.plugin?)).getLast?
        mock := decide (.mock ∈ settings)
        words } := by
  have hwords : ∀ word ∈ words, isOption word = false := fun word hmem => decide_eq_false (hw word hmem)
  rw [parse, read_mixed_send h rfl hwords, foldl_put]
  simp

/-- Options before the command, between its words and behind them, with values that look like an option and like the command. -/
theorem parse_mixed_mimics :
    let settings : List Setting := [.plugin "send", .mock, .url "--plugin", .plugin "-v", .plugin ""]
    let words := ["draw", "send", ""]
    let texts := ["--plugin", "send", "--mock", "send", "draw", "--api-url", "--plugin", "send", "--plugin", "-v", "", "--plugin", ""]
    Mixed settings ("send" :: words) texts ∧ (∀ word ∈ words, word.toList.head? ≠ some '-') ∧
      parse texts = .ok
        { sends := true, url := some "--plugin", plugin := some "", mock := true, words := ["draw", "send", ""] } := by
  intro settings words texts
  have h : Mixed settings ("send" :: words) texts :=
    .setting (.plugin "send") (.setting .mock (.word "send" (.word "draw" (.setting (.url "--plugin") (.word "send"
      (.setting (.plugin "-v") (.word "" (.setting (.plugin "") .nil))))))))
  have hw : ∀ word ∈ words, word.toList.head? ≠ some '-' := by decide
  exact ⟨h, hw, parse_mixed h hw⟩

end Arguments

end Easel.Console
