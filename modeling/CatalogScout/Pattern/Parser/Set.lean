import CatalogScout.Pattern.Parser.Escape
import CatalogScout.Pattern.Parser.Piece

/-!
Character sets in square brackets.
-/

namespace CatalogScout
namespace Pattern

open Text

namespace Reader

variable [CharacterNames]

def escapeOfToken : Token → Reader Escape
  | .plain c => return .code c.toNat
  | .escaped c => escapeInSet c

/-- A set escape is a code or a category; the other two do not occur. -/
def memberOf : Escape → Member
  | .code c => .code c
  | .category kind negated => .category kind negated
  | .anchor _ => .code 0
  | .group _ => .code 0

/-- The set opened at `start`, with the members read so far in reverse. -/
def setMembers (start : Nat) : Nat → List Member → Reader (List Member)
  | 0, _ => faultAt .unterminatedSet start
  | n + 1, members => do
    match ← next with
    | none => faultAt .unterminatedSet start
    | some this =>
      if this = .plain ']' && !members.isEmpty then return members.reverse
      let lo ← escapeOfToken this
      if !(← accept '-') then
        setMembers start n (memberOf lo :: members)
      else
        match ← next with
        | none => faultAt .unterminatedSet start
        | some that =>
          if that = .plain ']' then
            return (Member.code '-'.toNat :: memberOf lo :: members).reverse
          let hi ← escapeOfToken that
          let length := this.text.length + 1 + that.text.length
          match lo, hi with
          | .code lo, .code hi =>
            if hi < lo then fault (.badRange this.text that.text) length
            setMembers start n (.range lo hi :: members)
          | _, _ => fault (.badRange this.text that.text) length

/-- A set whose opening bracket has been taken.  One character alone is no set. -/
def set : Reader CharTest := do
  let start := (← position) - 1
  let negated ← accept '^'
  let members ← setMembers start ((← get).rest.length + 1) []
  match Piece.distinct members with
  | [.code c] => return if negated then .other c else .literal c
  | members => return .set negated members

end Reader

end Pattern
end CatalogScout
