import Custody.Http.Escape

/-!
# `Custody.Http.Url.Path`: paths

A path that starts with a slash is a list of segments. The segments `.` and `..` are followed
rather than kept: the second one leaves a segment, but never one that starts with a drive, a
letter with a colon or a bar. Where a drive comes first in an address of a file, a bar stands for
the colon.
-/

set_option autoImplicit false

namespace Custody.Http

/-- The path of an address. -/
inductive Path where
  /-- Segments behind a slash each; without any the path is empty. -/
  | rooted (segments : List String)
  /-- A path that does not start with a slash. -/
  | bare (text : String)
  deriving DecidableEq, Repr

namespace Path

def segments : Path → List String
  | .rooted segments => segments
  | .bare _ => []

def render : Path → String
  | .rooted segments => String.join (segments.map ("/" ++ ·))
  | .bare text => text

/-- Whether the segment is a letter with a colon or a bar. -/
def isDrive (segment : List Char) : Bool :=
  match segment with
  | [c, d] => c.isAlpha && (d = ':' || d = '|')
  | _ => false

/-- Whether the segment is a drive, or starts with one and a backslash. -/
def startsWithDrive (segment : List Char) : Bool :=
  isDrive (segment.take 2) && (segment.drop 2).head?.all (· = '\\')

/-- The number of dots, if a piece consists of them, plain or escaped. -/
def dotCount? : List Char → Option Nat
  | [] => some 0
  | '.' :: rest => (dotCount? rest).map (· + 1)
  | '%' :: '2' :: e :: rest =>
    if e = 'e' || e = 'E' then (dotCount? rest).map (· + 1) else none
  | _ => none

/-- The segments without the last one. -/
def leave (segments : List String) : List String :=
  match segments.getLast? with
  | none => []
  | some last => if startsWithDrive last.toList then segments else segments.dropLast

/-- The segment of a piece. -/
def segment (mayBeDrive : Bool) (piece : List Char) : String :=
  if mayBeDrive && isDrive piece then String.ofList (piece.take 1 ++ [':'])
  else escape pathReserved piece

/-- Follows the pieces of a path from some segments on. A path that ends in dots ends in a
slash. Where there are drives, one may come before all other segments. -/
def walk (hasDrives : Bool) (segments : List String) : List (List Char) → List String
  | [] => segments
  | piece :: rest =>
    let ending := if rest = [] then [""] else []
    match dotCount? piece with
    | some 1 => walk hasDrives (segments ++ ending) rest
    | some 2 => walk hasDrives (leave segments ++ ending) rest
    | _ => walk hasDrives (segments ++ [segment (hasDrives && segments.isEmpty) piece]) rest

end Path

end Custody.Http
