/-!
# Tokens

A token is used up to a margin before it expires.
-/

namespace ManifestNotice.Chat

structure Token where
  value : String
  expiry : Nat
  deriving BEq, DecidableEq, Repr

namespace Token

/-- Seconds before its expiry from which a token is not used. -/
def margin : Nat := 30

def usualLifetime : Nat := 600

/-- Times are seconds in signed 64 bits. -/
def timeLimit : Nat := 0x8000000000000000

def isFresh (token : Token) (clock : Nat) : Bool := clock + margin < token.expiry

/-- A lifetime past the end of time counts as none. -/
def expiryAt (clock : Nat) (lifetime : Option Nat) : Nat :=
  match lifetime with
  | some seconds => if clock + seconds < timeLimit then clock + seconds else clock + usualLifetime
  | none => clock + usualLifetime

end Token

end ManifestNotice.Chat
