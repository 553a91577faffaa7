/-!
# The style sheet of an error page

The rules that give an error its colours and its layout in a notebook. All but the first rule are
forced, so that they win over those of the notebook itself.
-/

namespace Stepwise.Notebook

/-- A rule of a style sheet: a remark above it, what it is for, and what it sets. -/
structure StyleRule where
  remark : Option String
  selector : String
  settings : List (String × String)
  forced : Bool
  deriving Repr

/-- Blanks, four for each level. -/
def indentation (level : Nat) : String :=
  String.ofList (List.replicate (4 * level) ' ')

namespace StyleRule

/-- The lines of a rule. -/
def lines (rule : StyleRule) : List String :=
  let remark := match rule.remark with
    | none => []
    | some text => [indentation 3 ++ "/* " ++ text ++ " */"]
  let ending := if rule.forced then " !important;" else ";"
  remark ++ [indentation 3 ++ rule.selector ++ " \x7b"] ++
    rule.settings.map (fun setting => indentation 4 ++ setting.1 ++ ": " ++ setting.2 ++ ending) ++
    [indentation 3 ++ "\x7d"]

end StyleRule

/-- The rule that takes back what the notebook sets. -/
def resetRule : StyleRule :=
  ⟨some "Reset Jupyter's default styles that might interfere", ".jp-OutputArea-output div",
    [("margin", "0"), ("padding", "0"), ("line-height", "inherit")], false⟩

/-- The rules for the parts of an error page. -/
def pageRules : List StyleRule :=
  [⟨some "Main error container with !important to override Jupyter styles", ".think-error",
      [("font-family", "'Monaco', 'Menlo', 'Ubuntu Mono', 'Consolas', monospace"),
        ("white-space", "pre"), ("background-color", "#1e1e1e"), ("color", "#d4d4d4"),
        ("padding", "6px"), ("border-left", "4px solid #f14c4c"), ("border-radius", "4px"),
        ("margin", "4px 0"), ("line-height", "1.2"), ("font-size", "13px"), ("display", "block")],
      true⟩,
    ⟨none, ".error-content", [("padding", "2px"), ("margin", "0")], true⟩,
    ⟨none, ".error-title",
      [("color", "#f14c4c"), ("font-weight", "bold"), ("margin", "0 0 2px 0"),
        ("padding-bottom", "2px"), ("border-bottom", "1px solid #333"), ("display", "block")],
      true⟩,
    ⟨none, ".error-details",
      [("color", "#d4d4d4"), ("margin", "2px 0"), ("line-height", "1.2"), ("display", "block")],
      true⟩,
    ⟨none, ".error-details div",
      [("margin", "1px 0"), ("padding", "0"), ("line-height", "1.2")], true⟩,
    ⟨none, ".source-code",
      [("margin", "3px 0"), ("padding", "2px"), ("background-color", "#2d2d2d"),
        ("border-radius", "2px"), ("display", "block")],
      true⟩,
    ⟨none, ".code-line",
      [("margin", "0"), ("padding", "1px 0"), ("color", "#d4d4d4"), ("display", "block"),
        ("line-height", "1.2")],
      true⟩,
    ⟨none, ".error-line",
      [("background-color", "rgba(241, 76, 76, 0.2)"), ("color", "#f14c4c")], true⟩,
    ⟨none, ".arrow",
      [("color", "#f14c4c"), ("margin-right", "2px"), ("font-weight", "bold"),
        ("display", "inline-block")],
      true⟩,
    ⟨none, ".line-number",
      [("color", "#858585"), ("margin-right", "4px"), ("user-select", "none"),
        ("display", "inline-block"), ("min-width", "1.5em"), ("text-align", "right")],
      true⟩,
    ⟨some "Force block display for container elements", ".variable-section",
      [("display", "block"), ("margin-top", "2px"), ("padding", "2px"),
        ("background-color", "#2d2d2d"), ("border-radius", "2px")],
      true⟩,
    ⟨none, ".variable-line",
      [("display", "block"), ("color", "#9cdcfe"), ("margin", "1px 0"), ("line-height", "1.2")],
      true⟩,
    ⟨none, ".variable-value", [("color", "#ce9178")], true⟩,
    ⟨none, ".section-title",
      [("color", "#569cd6"), ("margin-bottom", "1px"), ("font-weight", "bold"),
        ("font-size", "12px"), ("display", "block")],
      true⟩]

/-- The text of the style sheet. -/
def styleSheet : String :=
  let rules := (pageRules.map StyleRule.lines).intersperse [""]
  "\n".intercalate
    (["", indentation 2 ++ "<style>"] ++ resetRule.lines ++ [indentation 3] ++ rules.flatten ++
      [indentation 2 ++ "</style>", indentation 2])

end Stepwise.Notebook
