import PageHost.Url.Domain.MappingTable
import PageHost.Url.Domain.Table
/-!
# Preparing characters

Each character of a domain name is kept, dropped, replaced by others or refused.
Letters become lower case, and forms that only differ in their width or their
style become plain.
-/

namespace PageHost.Url.Domain

/-- Characters that no domain name has. -/
def refused : List (Nat × Nat) := spans refusedRows

/-- Characters that are dropped. -/
def dropped : List (Nat × Nat) := spans droppedRows

/-- Runs of characters that move by one distance. -/
def runs : List ShiftedRun := runsFrom 0 runsRows.flatten

/-- Characters that become another one. -/
def singles : List (Nat × Nat) := singlesFrom 0 (singlesRows ++ laterSinglesRows).flatten

/-- Characters that become several. -/
def expansions : List (Nat × List Nat) :=
  let entries := expansionsRows.flatten
  listsFrom entries.length 0 entries

/-- What a character outside ASCII becomes, if it is replaced. -/
def replacement? (n : Nat) : Option (List Nat) :=
  match runs.findSome? fun r => r.shift? n with
  | some m => some [m]
  | none =>
    match singles.lookup n with
    | some m => some [m]
    | none => expansions.lookup n

/-- Whether a character can stand in a prepared name. -/
def isKept (n : Nat) : Bool :=
  if n < 0x80 then !(Char.ofNat n).isUpper
  else (replacement? n).isNone && !within dropped n && !within refused n

/-- What a character becomes; none if it is refused. -/
def prepare? (n : Nat) : Option (List Nat) :=
  if n < 0x80 then some [(Char.ofNat n).toLower.toNat]
  else
    match replacement? n with
    | some ms => some ms
    | none =>
      if within dropped n then some []
      else if within refused n then none
      else some [n]

end PageHost.Url.Domain
