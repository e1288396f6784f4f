import LineLint.Matcher.Blanks
import LineLint.Matcher.Named
import LineLint.Matcher.Symbol
import LineLint.Matcher.TypeName
import LineLint.Rule

/- The built-in rules, in the order in which violations of the same line are reported. -/
namespace LineLint.Rule

def noSpaceIndent : Rule where
  id := "no-space-indent"
  severity := .warning
  summary := "Indentation has a space before a tab"
  matcher := spaceBeforeTab
  hint := "Indent with tabs only, or with spaces only"
  group := .category .whitespace

def trailingWhitespace : Rule where
  id := "trailing-whitespace"
  severity := .warning
  summary := "Line has trailing whitespace"
  matcher := Pattern.trailingBlanks.matcher
  hint := ""
  group := .category .whitespace

def noSemicolons : Rule where
  id := "no-semicolons"
  severity := .error
  summary := "Line contains a semicolon"
  matcher := (Pattern.character .code ';').matcher
  hint := "Put each statement on its own line without a trailing ';'"
  group := .category .grammar

def braceSameLine : Rule where
  id := "brace-same-line"
  severity := .warning
  summary := "Opening brace on its own line"
  matcher := Pattern.loneBrace.matcher
  hint := "Open braces on the same line as the statement they belong to"
  group := .category .grammar

def colonSpacing : Rule where
  id := "colon-spacing"
  severity := .warning
  summary :=
    "Colon in declaration of '\x7bname\x7d' should follow the name and be followed by one space"
  matcher := Pattern.misplacedColon.matcher
  hint := "Write 'name: Type'"
  group := .category .grammar

def typeNameCapitalized : Rule where
  id := "type-name-capitalized"
  severity := .error
  summary := "Type name '\x7bname\x7d' should start with an uppercase letter"
  matcher := Pattern.smallTypeName.matcher
  hint := "Use UpperCamelCase for type names"
  group := .category .naming

def noKPrefix : Rule where
  id := "no-k-prefix"
  severity := .warning
  summary := "Constant '\x7bname\x7d' uses a 'k' prefix"
  matcher := Pattern.hungarian.matcher
  hint := "Use lowerCamelCase without Hungarian-style prefixes"
  group := .category .naming

def noForceCast : Rule where
  id := "no-force-cast"
  severity := .warning
  summary := "Forced cast with 'as!'"
  matcher := (Pattern.word "as!").matcher
  hint := "Use 'as?' and handle the nil case"
  group := .category .optionals

def noForceTry : Rule where
  id := "no-force-try"
  severity := .warning
  summary := "Forced 'try!'"
  matcher := (Pattern.word "try!").matcher
  hint := "Use 'try' inside 'do/catch', or 'try?'"
  group := .category .optionals

def builtin : List Rule :=
  [noSpaceIndent, trailingWhitespace, noSemicolons, braceSameLine, colonSpacing,
   typeNameCapitalized, noKPrefix, noForceCast, noForceTry]

def builtinIds : List String := builtin.map Rule.id

def builtin? (id : String) : Option Rule := builtin.find? fun rule => rule.id = id

/-- The matcher of that name: a built-in rule's, by its id, or one of those made for other rules. -/
def matcher? (name : String) : Option Matcher :=
  ((builtin? name).map Rule.matcher).or (Matcher.named? name)

end LineLint.Rule
