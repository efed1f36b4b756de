import DartModels.Text.Blank
import DartModels.Text.Front
import DartModels.Text.WordChar

/-
Structural check of Dart source: a class declaration and balanced brackets outside of literals.
-/

namespace DartModels.Dart

open DartModels.Text

/-- What is left of a text after white space, at least one character of it. -/
def afterBlank? : List Char → Option (List Char)
  | [] => none
  | c :: rest => if isBlank c then some (trimStart rest) else none

/-- A class keyword has white space and a name after it. -/
def startsClass (text : List Char) : Bool :=
  match (afterWord? "class".toList text).bind afterBlank? with
  | some (c :: _) => isWordChar c
  | _ => false

/-- A class declaration may be marked abstract. -/
def startsDeclaration (text : List Char) : Bool :=
  match (afterWord? "abstract".toList text).bind afterBlank? with
  | some rest => startsClass rest
  | none => startsClass text

/-- Whether a line after this point begins with a declaration, white space aside. -/
def laterDeclaration : List Char → Bool
  | [] => false
  | c :: rest => (c == '\n' && startsDeclaration (trimStart rest)) || laterDeclaration rest

def declaresClass (text : List Char) : Bool :=
  startsDeclaration (trimStart text) || laterDeclaration text

/-- The number of characters up to the end of a literal that is open at the front of a text; a
literal does not go beyond its line. -/
def literalLength? (mark : Char) : List Char → Option Nat
  | [] => none
  | '\\' :: c :: rest =>
      if c = '\n' then none else (literalLength? mark rest).map (· + 2)
  | c :: rest =>
      if c = mark then some 1
      else if c = '\n' ∨ c = '\\' then none
      else (literalLength? mark rest).map (· + 1)

/-- The text without its literals, less so many characters at its front; a quote that opens no
literal stays. -/
def codeAfter : (skipped : Nat) → List Char → List Char
  | _, [] => []
  | skipped + 1, _ :: rest => codeAfter skipped rest
  | 0, c :: rest =>
      if c = '\'' ∨ c = '"' then
        match literalLength? c rest with
        | some length => codeAfter length rest
        | none => c :: codeAfter 0 rest
      else c :: codeAfter 0 rest

def outsideLiterals (text : List Char) : List Char := codeAfter 0 text

inductive StructureError where
  | noClass
  | unbalanced (opening closing : Char) (opened closed : Nat)
  deriving DecidableEq, Repr

def StructureError.message : StructureError → String
  | .noClass => "Generated Dart code has no class declarations"
  | .unbalanced opening closing opened closed =>
      "Generated Dart code has unbalanced '" ++ String.ofList [opening, closing] ++ "': " ++
        toString opened ++ " open, " ++ toString closed ++ " close"

def checkBrackets (code : List Char) (opening closing : Char) : Except StructureError Unit :=
  let opened := code.count opening
  let closed := code.count closing
  if opened = closed then .ok () else .error (.unbalanced opening closing opened closed)

/-- Braces are counted before parentheses. -/
def checkStructure (text : String) : Except StructureError Unit := do
  if declaresClass text.toList then
    let code := outsideLiterals text.toList
    checkBrackets code '\x7b' '\x7d'
    checkBrackets code '(' ')'
  else .error .noClass

end DartModels.Dart
