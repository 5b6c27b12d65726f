import AssetAudit.Regex.Expr
import AssetAudit.Text.Quoted

/-!
# Why an expression is refused

Most faults have a place in the expression, which their text names, with line and column when the
expression has more than one line.
-/
namespace AssetAudit.Regex

inductive Fault where
  | trailingBackslash
  | incompleteEscape (escape : Text)
  | badEscape (escape : Text)
  | octalTooLarge (escape : Text)
  | missing (what : Text)
  | unterminatedName (terminator : Char)
  | undefinedCharacter (name : Text)
  | openGroup
  | invalidGroup (index : Nat)
  | sameLookbehind
  | unterminatedSet
  | badRange (low high : Text)
  | repeatOrder
  | nothingToRepeat
  | multipleRepeat
  | unexpectedEnd
  | badGroupName (name : Text)
  | unknownGroupName (name : Text)
  | redefinedGroup (name : Text) (now before : Nat)
  | unknownExtension (written : Text)
  | unterminatedComment
  | unterminatedGroup
  | badGroupNumber
  | tooManyBranches
  | flagsNotAtStart
  | localeFlag
  | clashingFlags
  | unknownFlag
  | globalFlagOn
  | globalFlagOff
  | alphabetFlagOff
  | flagOnAndOff
  | unbalancedParenthesis
  deriving DecidableEq, Repr

def Fault.message : Fault → Text
  | .trailingBackslash => "bad escape (end of pattern)".toList
  | .incompleteEscape e => "incomplete escape ".toList ++ e
  | .badEscape e => "bad escape ".toList ++ e
  | .octalTooLarge e => "octal escape value ".toList ++ e ++ " outside of range 0-0o377".toList
  | .missing what => "missing ".toList ++ what
  | .unterminatedName t => "missing ".toList ++ t :: ", unterminated name".toList
  | .undefinedCharacter n => "undefined character name ".toList ++ Text.quoted n
  | .openGroup => "cannot refer to an open group".toList
  | .invalidGroup n => "invalid group reference ".toList ++ Text.ofNat n
  | .sameLookbehind => "cannot refer to group defined in the same lookbehind subpattern".toList
  | .unterminatedSet => "unterminated character set".toList
  | .badRange low high => "bad character range ".toList ++ low ++ '-' :: high
  | .repeatOrder => "min repeat greater than max repeat".toList
  | .nothingToRepeat => "nothing to repeat".toList
  | .multipleRepeat => "multiple repeat".toList
  | .unexpectedEnd => "unexpected end of pattern".toList
  | .badGroupName n => "bad character in group name ".toList ++ Text.quoted n
  | .unknownGroupName n => "unknown group name ".toList ++ Text.quoted n
  | .redefinedGroup n now before =>
    "redefinition of group name ".toList ++ Text.quoted n ++ " as group ".toList ++ Text.ofNat now ++
      "; was group ".toList ++ Text.ofNat before
  | .unknownExtension w => "unknown extension ?".toList ++ w
  | .unterminatedComment => "missing ), unterminated comment".toList
  | .unterminatedGroup => "missing ), unterminated subpattern".toList
  | .badGroupNumber => "bad group number".toList
  | .tooManyBranches => "conditional backref with more than two branches".toList
  | .flagsNotAtStart => "global flags not at the start of the expression".toList
  | .localeFlag => "bad inline flags: cannot use 'L' flag with a str pattern".toList
  | .clashingFlags => "bad inline flags: flags 'a', 'u' and 'L' are incompatible".toList
  | .unknownFlag => "unknown flag".toList
  | .globalFlagOn => "bad inline flags: cannot turn on global flag".toList
  | .globalFlagOff => "bad inline flags: cannot turn off global flag".toList
  | .alphabetFlagOff => "bad inline flags: cannot turn off flags 'a', 'u' and 'L'".toList
  | .flagOnAndOff => "bad inline flags: flag turned on and off".toList
  | .unbalancedParenthesis => "unbalanced parenthesis".toList

/-- A refusal with a text belongs to the expression; the last three are limits that are not
reported as faults of the expression. -/
inductive CompileError where
  | malformed (fault : Fault) (position : Nat)
  | unsupportedTemplate (greed : Greed)
  | variableLookbehind
  | repeatTooLarge
  | codeTooLarge
  | alphabetClash
  deriving DecidableEq, Repr

def CompileError.isFault : CompileError → Bool
  | .malformed _ _ | .unsupportedTemplate _ | .variableLookbehind => true
  | .repeatTooLarge | .codeTooLarge | .alphabetClash => false

/-- ` at position 3`, and ` (line 2, column 1)` in an expression of several lines. -/
def place (pattern : Text) (position : Nat) : Text :=
  let before := pattern.take position
  let column := position - (before.reverse.dropWhile (· != '\n')).length + 1
  " at position ".toList ++ Text.ofNat position ++
    if pattern.contains '\n' then
      " (line ".toList ++ Text.ofNat (before.count '\n' + 1) ++ ", column ".toList ++
        Text.ofNat column ++ [')']
    else []

def Greed.code : Greed → Text
  | .greedy => "MAX_REPEAT".toList
  | .reluctant => "MIN_REPEAT".toList
  | .possessive => "POSSESSIVE_REPEAT".toList

def CompileError.message (pattern : Text) : CompileError → Text
  | .malformed fault position => fault.message ++ place pattern position
  | .unsupportedTemplate g => "internal: unsupported template operator ".toList ++ g.code
  | .variableLookbehind => "look-behind requires fixed-width pattern".toList
  | .repeatTooLarge => "the repetition number is too large".toList
  | .codeTooLarge => "signed integer is greater than maximum".toList
  | .alphabetClash => "ASCII and UNICODE flags are incompatible".toList

end AssetAudit.Regex
