import BotScript.Proofs.Syntax.Lexemes

/-! Tokens tile their source. A text that is read is cut into pieces that lie next to each other and
leave nothing out: blanks, comments and the lexemes of its tokens. Where a token stands is counted
from what is in front of it. -/

namespace BotScript

namespace Position

/-- The position behind a text: its line ends and the characters behind the last of them are
counted. -/
def behind (before : List Char) : Position :=
  ⟨before.count '\n' + 1, (before.reverse.takeWhile (· ≠ '\n')).length + 1⟩

theorem step_behind (before : List Char) (c : Char) :
    (behind before).step c = behind (before ++ [c]) := by
  unfold step behind
  by_cases line : c = '\n' <;> simp [line]

theorem advance_behind (before chars : List Char) :
    (behind before).advance chars = behind (before ++ chars) := by
  induction chars generalizing before with
  | nil => rw [advance_nil, List.append_nil]
  | cons c chars ih =>
    calc (behind before).advance (c :: chars)
      _ = ((behind before).step c).advance chars := rfl
      _ = behind (before ++ [c] ++ chars) := by rw [step_behind, ih]
      _ = behind (before ++ c :: chars) := by rw [List.append_assoc, List.singleton_append]

end Position

namespace Lexer

/-- What may stand between tokens: a blank, a comment up to the end of its line, or a comment up to
its first closing mark. -/
inductive Gap (behind : List Char) : List Char → Prop
  | blank {c : Char} (space : isSpace c) : Gap behind [c]
  | line {chars : List Char} (one : '\n' ∉ chars) (ends : ∀ c ∈ behind.head?, c = '\n') :
      Gap behind ('#' :: chars)
  | block {inside : List Char} (first : ¬ ['*', '/'] <:+: inside ++ ['*']) :
      Gap behind ('/' :: '*' :: (inside ++ ['*', '/']))

theorem Skips.gap {source lexeme behind : List Char} (skips : Skips source lexeme behind) :
    Gap behind lexeme := by
  cases skips with
  | blank space => exact .blank space
  | line rest =>
    refine .line (fun member => ?_) fun c first => ?_
    · simpa using List.all_eq_true.mp List.all_takeWhile '\n' member
    · have stops := List.head?_dropWhile_not (· ≠ '\n') rest
      rw [first] at stops
      simpa using stops
  | block closed => exact .block ((splitAtMark?_iff (List.cons_ne_nil _ _)).mp closed).2

end Lexer

/-- A piece of a text: its characters, and the token that they are written for unless they stand
between tokens. -/
structure Tile where
  chars : List Char
  token? : Option Token

namespace Tile

open Lexer (Gap Lexeme)

/-- The text that some tiles make up. -/
def text (tiles : List Tile) : List Char :=
  tiles.flatMap chars

/-- A tile fits between what is in front of it and what is behind it: a gap, or the longest lexeme
that is written there, of a token that has the position behind the front. -/
inductive Fits (before behind : List Char) : Tile → Prop
  | gap {chars : List Char} (gap : Gap behind chars) : Fits before behind ⟨chars, none⟩
  | token {chars : List Char} {t : Token} (written : Lexeme t.kind t.text.toList chars)
      (stands : t.position = .behind before)
      (longest : ∀ kind value other, Lexeme kind value other → other <+: chars ++ behind →
        other <+: chars) :
      Fits before behind ⟨chars, some t⟩

/-- Tiles that lie next to each other and all fit; some text is in front of them. -/
inductive Row : List Char → List Tile → Prop
  | nil (before : List Char) : Row before []
  | cons {before : List Char} {tile : Tile} {tiles : List Tile}
      (fits : tile.Fits before (text tiles)) (later : Row (before ++ tile.chars) tiles) :
      Row before (tile :: tiles)

end Tile

namespace Lexer

variable {source before : List Char} {p : Position} {stream : TokenStream}

theorem Scanned.tiles (scanned : Scanned p source stream) (stands : p = .behind before) :
    ∃ tiles, Tile.Row before tiles ∧ Tile.text tiles = source ∧
      tiles.filterMap Tile.token? = stream.tokens ∧
      stream.finish = .behind (before ++ source) := by
  induction scanned generalizing before with
  | done p => exact ⟨[], .nil before, rfl, rfl, by rw [stands, List.append_nil]⟩
  | @blank p finish c rest found tokens fits blank later ih =>
    obtain ⟨tiles, row, whole, listed, ends⟩ := ih (by rw [stands, Position.advance_behind])
    have gap := (piece_skips fits blank).gap
    rw [← whole] at gap
    refine ⟨⟨found.lexeme, none⟩ :: tiles, .cons (.gap gap) row, ?_, listed, ?_⟩
    · exact (congrArg (found.lexeme ++ ·) whole).trans found.whole
    · rw [← found.whole, ← List.append_assoc]
      exact ends
  | @token p finish c rest chars kind found tokens fits token later ih =>
    obtain ⟨tiles, row, whole, listed, ends⟩ := ih (by rw [stands, Position.advance_behind])
    have lexeme := (piece_spells fits token).toLexeme
    have fit : Tile.Fits before (Tile.text tiles)
        ⟨found.lexeme, some ⟨kind, String.ofList chars, p⟩⟩ := by
      refine .token (by rwa [String.toList_ofList]) stands fun other value longer written starts =>
        ?_
      rw [whole, found.whole] at starts
      exact written.longest starts fits
    refine ⟨⟨found.lexeme, some ⟨kind, String.ofList chars, p⟩⟩ :: tiles, .cons fit row, ?_, ?_, ?_⟩
    · exact (congrArg (found.lexeme ++ ·) whole).trans found.whole
    · exact congrArg (_ :: ·) listed
    · rw [← found.whole, ← List.append_assoc]
      exact ends

end Lexer

/-- The tokens of a text tile it: the text is cut into gaps and lexemes that leave no character out,
the lexemes are those of its tokens one by one, every token stands behind what is in front of its
lexeme, and the end stands behind the text. -/
theorem tokenize_tiles {source : String} {stream : TokenStream}
    (scanned : tokenize source = .ok stream) :
    ∃ tiles, Tile.Row [] tiles ∧ Tile.text tiles = source.toList ∧
      tiles.filterMap Tile.token? = stream.tokens ∧
      stream.finish = .behind source.toList :=
  (Lexer.scanned_of_scan scanned).tiles rfl

/-- Comments and a block over several lines, with tokens behind them. -/
def scattered : String :=
  "#set\n/* a /* b\n*/ $a.b2.c='# \\' /*'==\"\"\"\n  \"x\"\n\"\"\"-1.5end.x"

/-- Its tokens, which stand in the lines where their lexemes start. -/
def scatteredTokens : TokenStream where
  tokens :=
    [⟨.dollarName, "a.b2.c", ⟨3, 4⟩⟩, ⟨.operator, "=", ⟨3, 11⟩⟩, ⟨.string, "# ' /*", ⟨3, 12⟩⟩,
      ⟨.operator, "==", ⟨3, 21⟩⟩, ⟨.block, "\"x\"", ⟨3, 23⟩⟩, ⟨.number, "-1.5", ⟨5, 4⟩⟩,
      ⟨.name, "end.x", ⟨5, 8⟩⟩]
  finish := ⟨5, 13⟩

theorem scattered_tiles : tokenize scattered = .ok scatteredTokens ∧ ∃ tiles, Tile.Row [] tiles ∧
    Tile.text tiles = scattered.toList ∧ tiles.filterMap Tile.token? = scatteredTokens.tokens ∧
      scatteredTokens.finish = .behind scattered.toList := by
  have scanned : tokenize scattered = .ok scatteredTokens := by decide +kernel
  exact ⟨scanned, tokenize_tiles scanned⟩

end BotScript
