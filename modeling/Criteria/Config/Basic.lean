/-!
# Configuration

The settings of a compilation. Settings may be put together freely; `Config.check` says whether they
make sense.
-/

namespace Criteria

/-- The settings: the character at which field names are split into paths, the escape character of
patterns, whether layouts are remembered, and the page sizes. -/
structure Config where
  separator : Char
  escape : Char
  rememberLayouts : Bool
  defaultPageSize : UInt32
  maxPageSize : UInt32
deriving DecidableEq, Repr

/-- The settings one by one, as documents and errors name them. -/
inductive Setting where
  | separator
  | escape
  | rememberLayouts
  | defaultPageSize
  | maxPageSize
deriving DecidableEq, Repr

/-- The key under which a setting is written. -/
def Setting.key : Setting → String
  | separator => "path_separator"
  | escape => "like_escape"
  | rememberLayouts => "cache_filter_models"
  | defaultPageSize => "default_page_size"
  | maxPageSize => "max_page_size"

/-- Why there is no configuration: the document cannot be read as text, it does not say settings, or
a setting does not make sense. -/
inductive ConfigError where
  | unreadable
  | malformed
  | invalid (setting : Setting) (reason : String)
deriving DecidableEq, Repr

def ConfigError.message : ConfigError → String
  | unreadable => "failed to read config"
  | malformed => "failed to parse config"
  | invalid setting reason =>
    let key := setting.key
    s!"invalid config value for '{key}': {reason}"

namespace Config

/-- The settings when nothing is said. -/
def standard : Config where
  separator := '_'
  escape := '\\'
  rememberLayouts := true
  defaultPageSize := 20
  maxPageSize := 1000

instance : Inhabited Config := ⟨standard⟩

/-- The first setting that makes no sense: a separator that explicit paths use, an escape character
that is a wildcard, no room on a page, or a default size that does not fit. -/
def fault? (config : Config) : Option (Setting × String) :=
  if config.separator = '.' then some (.separator, "'.' is reserved for explicit paths")
  else if config.escape = '%' ∨ config.escape = '_' then
    some (.escape, "escape character cannot be a wildcard")
  else if config.maxPageSize = 0 then some (.maxPageSize, "must be at least 1")
  else if config.defaultPageSize = 0 ∨ config.maxPageSize < config.defaultPageSize then
    some (.defaultPageSize, "must be between 1 and " ++ config.maxPageSize.toNat.repr)
  else none

/-- Whether the settings make sense. -/
def check (config : Config) : Except ConfigError Unit :=
  match config.fault? with
  | some (setting, reason) => .error (.invalid setting reason)
  | none => .ok ()

variable {config : Config}

theorem fault?_eq_none_iff : config.fault? = none ↔
    config.separator ≠ '.' ∧ ¬ (config.escape = '%' ∨ config.escape = '_') ∧
      config.maxPageSize ≠ 0 ∧
      ¬ (config.defaultPageSize = 0 ∨ config.maxPageSize < config.defaultPageSize) := by
  unfold fault?
  by_cases reserved : config.separator = '.'
  · simp [reserved]
  · by_cases wildcard : config.escape = '%' ∨ config.escape = '_'
    · simp [reserved, wildcard]
    · by_cases roomless : config.maxPageSize = 0
      · simp [reserved, wildcard, roomless]
      · simp [reserved, wildcard, roomless]

/-- Settings make sense when explicit paths do not use the separator, the escape character is no
wildcard, there is room on a page, and the size to fall back on is neither nothing nor too much. -/
theorem check_eq_ok_iff : config.check = .ok () ↔
    config.separator ≠ '.' ∧ (config.escape ≠ '%' ∧ config.escape ≠ '_') ∧
      config.maxPageSize ≠ 0 ∧
      config.defaultPageSize ≠ 0 ∧ config.defaultPageSize ≤ config.maxPageSize := by
  have checked : config.check = .ok () ↔ config.fault? = none := by
    unfold check
    cases config.fault? <;> simp
  rw [checked, fault?_eq_none_iff, not_or, not_or, UInt32.not_lt]

end Config

end Criteria
