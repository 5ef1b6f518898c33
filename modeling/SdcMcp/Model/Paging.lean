/-
Byte-budgeted pages of a list result, `paging.rs`.

SDC answers some lists whole.  `pageList` cuts such an answer into a page that fits
a budget and a token for the next one; a token is an offset behind a prefix.
-/
import SdcMcp.Lib.JsonText
import SdcMcp.Lib.Map

namespace SdcMcp

/-- Changing it invalidates the tokens of older builds. -/
def tokenPrefix : String := "sdcpage1:"

structure ListPage where
  items : List Value
  pageItemCount : Nat
  totalItemCount : Nat
  /-- The token of the next page, if there is one. -/
  continuationToken : Option String

inductive PageError where
  | notAList (itemsKey : String)
  | invalidContinuationToken
  deriving DecidableEq

/-- Keeps only the given members of an item that is an object. -/
def projectFields (item : Value) (fields : Option (List String)) : Value :=
  match fields, item.asObject with
  | some fields, some map =>
      .object (fields.foldl (fun projected field =>
        match map.get field with
        | some value => projected.insert field value
        | none => projected) Map.empty)
  | _, _ => item

/-- `usize::saturating_add`. -/
def saturatingAdd (a b : Nat) : Nat := min (a + b) (2 ^ 64 - 1)

/-- `str::parse::<usize>`: an optional plus sign and digits. -/
def parseUsize (text : List Char) : Option Nat :=
  let digits := match text with
    | '+' :: rest => rest
    | rest => rest
  if !digits.isEmpty && digits.all Char.isDigit && Nat.ofDigitChars 10 digits 0 < 2 ^ 64 then
    some (Nat.ofDigitChars 10 digits 0)
  else none

def encodeOffset (offset : Nat) : String := tokenPrefix ++ toString offset

def decodeOffset (token : String) : Except PageError Nat :=
  if tokenPrefix.toList.isPrefixOf token.toList then
    match parseUsize (token.toList.drop tokenPrefix.toList.length) with
    | some offset => .ok offset
    | none => .error .invalidContinuationToken
  else .error .invalidContinuationToken

/-- The bytes of an item as it is sent. -/
def itemSize (item : Value) : Nat := item.tree.toVec.length

/-- Adds items to a page while they fit; the first one is added even if it does not. -/
def fillPage (fields : Option (List String)) (budgetBytes : Nat) (page : List Value)
    (used : Nat) : List Value → List Value
  | [] => page
  | item :: rest =>
      let projected := projectFields item fields
      if !page.isEmpty && budgetBytes < saturatingAdd used (itemSize projected) then page
      else fillPage fields budgetBytes (page ++ [projected])
        (saturatingAdd used (itemSize projected)) rest

def pageList (value : Value) (itemsKey : String) (fields : Option (List String))
    (continuationToken : Option String) (budgetBytes : Nat) : Except PageError ListPage := do
  let items ← match (value.get itemsKey).bind Value.asArray with
    | some items => pure items
    | none => throw (.notAList itemsKey)
  let offset ← match continuationToken with
    | some token => decodeOffset token
    | none => pure 0
  let start := min offset items.length
  let page := fillPage fields budgetBytes [] 0 (items.drop start)
  let nextOffset := start + page.length
  return {
    items := page
    pageItemCount := page.length
    totalItemCount := items.length
    continuationToken :=
      if nextOffset < items.length then some (encodeOffset nextOffset) else none }

end SdcMcp
