import ForwardingProxy.CommandLine.Reading

/-!
Contract: what the program says about itself and about an end that is no success.

Owns: the texts for usage errors, and the text for a failure with its reasons.
-/

namespace ForwardingProxy.CommandLine

/-- The commands and their options. -/
def usageText : String :=
  "Usage: proxygen generate [--src DIR]... [--out DIR] [--config FILE] [--stdout] "
    ++ "[--allow-errors]\n"
    ++ "       proxygen analyze [--src DIR]... [--config FILE] [--json]\n"
    ++ "       proxygen init [--cwd DIR] [--force]\n"

/-- The name and version of the program. -/
def versionText : String := "cargo-proxygen 0.1.0\n"

/-- What is printed for a usage error. -/
def UsageError.text : UsageError → String
  | .helpAsked | .commandMissing => usageText
  | .versionAsked => versionText
  | .commandUnknown => "error: unrecognized subcommand\n\n" ++ usageText
  | .argumentUnknown => "error: unexpected argument\n\n" ++ usageText
  | .valueMissing => "error: a value is required\n\n" ++ usageText
  | .valueUnexpected => "error: unexpected value\n\n" ++ usageText
  | .givenTwice => "error: an argument cannot be used multiple times\n\n" ++ usageText

/-- Whether the user asked for a text and nothing is wrong. -/
def UsageError.isAnswer : UsageError → Bool
  | .helpAsked | .versionAsked => true
  | _ => false

/-- The reasons behind the first one; several are numbered. -/
def causeLines : List String → List String
  | [] => []
  | [cause] => ["", "Caused by:", "    " ++ cause]
  | causes =>
      ["", "Caused by:"] ++ causes.mapIdx fun place cause =>
        "    " ++ toString place ++ ": " ++ cause

/-- What is printed for a failure, given its reasons from the outermost to the innermost. -/
def failureText : List String → String
  | [] => ""
  | outermost :: causes => "\n".intercalate (("Error: " ++ outermost) :: causeLines causes) ++ "\n"

end ForwardingProxy.CommandLine
