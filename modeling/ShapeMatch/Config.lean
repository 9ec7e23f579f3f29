import ShapeMatch.Text.Blank
import ShapeMatch.Text.Listing
import ShapeMatch.Text.Numeral

/-!
# Configuration

How deep a pattern may be nested. The limit can be set from outside by a numeral between blanks;
anything else leaves the default.
-/

namespace ShapeMatch

structure Config where
  maxDepth : Nat
deriving DecidableEq

namespace Config

def standard : Config := ⟨256⟩

def limit? (text : String) : Option Nat :=
  (Numeral.read? (Blank.trim text.toList)).filter (0 < ·)

def ofEnvironment (bytes : Option ByteArray) : Config :=
  match (bytes.bind String.fromUTF8?).bind limit? with
  | some depth => ⟨depth⟩
  | none => standard

def debug (config : Config) : String :=
  Listing.named "MatchConfig" [("max_depth", config.maxDepth.repr)]

end Config

end ShapeMatch
