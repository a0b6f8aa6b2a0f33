import Stencil.Fault
import Stencil.Code.Path

/-!
# The home directory in reports

Reports write `~` for the home directory. `shortenPath` does so for a path, at
its front only; `shortenText` does so in any text, wherever the home
directory's path stands with a slash behind it.
-/

namespace Stencil.Report

open Code

/-- Refuse a setting that the character zero would end. -/
def checkSetting (setting : String) : Except Fault Unit :=
  if setting.toList.contains '\x00' then .error .nulInPath else .ok ()

/-- The home directory that a setting names: slashes at its end are dropped, and nothing at all is
the root. A setting that starts with `~` names none. -/
def homeOf (setting : String) : Except Fault Path := do
  checkSetting setting
  match (setting.toList.reverse.dropWhile (· = '/')).reverse with
  | [] => return .ofText "/"
  | '~' :: _ => throw .noHome
  | trimmed => return .ofText (String.ofList trimmed)

/-- A path as it is reported. -/
def shortenPath (home : Path) (text : String) : String :=
  let prefixed := home.text ++ "/"
  if text = home.text then "~"
  else if prefixed.toList.isPrefixOf text.toList then
    "~/" ++ String.ofList (text.toList.drop prefixed.toList.length)
  else text

/-- Put `replacement` for every occurrence of `part`, from left to right. The first `skipped`
characters belong to the occurrence before. -/
def replaceFrom (part replacement : List Char) : (skipped : Nat) → List Char → List Char
  | _, [] => []
  | skipped + 1, _ :: rest => replaceFrom part replacement skipped rest
  | 0, c :: rest =>
    if part.isPrefixOf (c :: rest) then
      replacement ++ replaceFrom part replacement (part.length - 1) rest
    else c :: replaceFrom part replacement 0 rest

/-- A text as it is reported. -/
def shortenText (home : Path) (text : String) : String :=
  if text = home.text then "~"
  else
    String.ofList (replaceFrom (home.text ++ "/").toList "~/".toList 0 text.toList)

end Stencil.Report
