import Onboarding.Number.Numeral
import Onboarding.Text.Cut

/-!
# Where a target leads

A target is a URL or a host, with or without a port. Its authority is the host with the port that
is connected to: the target's own, else that of its scheme, else the caller's.
-/

namespace Onboarding.Authority

/-- The port of a scheme. -/
def schemePort? (scheme : List Char) : Option Nat :=
  if scheme = "https".toList then some 443
  else if scheme = "http".toList then some 80
  else if scheme = "mqtts".toList ∨ scheme = "ssl".toList then some 8883
  else if scheme = "mqtt".toList ∨ scheme = "tcp".toList then some 1883
  else none

/-- What stands before the first slash. -/
def host (cs : List Char) : List Char :=
  cs.takeWhile (· != '/')

/-- Whether a host ends in a colon and a port. -/
def hasPort (cs : List Char) : Bool :=
  match Text.cutAtLast ':' cs with
  | some (_, p) => (Numeral.parse? 65535 p).isSome
  | none => false

/-- A host with a port, its own if it has one. -/
def withPort (port : Nat) (cs : List Char) : List Char :=
  if hasPort cs then cs else cs ++ ':' :: Numeral.text port

/-- The authority of a target. -/
def of (target : List Char) (port : Nat) : List Char :=
  match Text.cutAtWord "://".toList target with
  | some (scheme, rest) => withPort ((schemePort? scheme).getD port) (host rest)
  | none => withPort port (host target)

end Onboarding.Authority
