import StepFlow.Numeric.Binary64
import StepFlow.Text.Utf8

namespace StepFlow.Text

-- Line ends in a text file: a carriage return, alone or before a line feed, is a line feed.
def unifyLineEnds : List Char → List Char
  | [] => []
  | '\r' :: '\n' :: cs => '\n' :: unifyLineEnds cs
  | '\r' :: cs => '\n' :: unifyLineEnds cs
  | c :: cs => c :: unifyLineEnds cs

-- Whether bytes that do not decode may do so with more bytes behind them. The first two of a
-- surrogate are only found out with the third one.
def Undecodable.isOpen (bad : Undecodable) (bytes : List UInt8) : Bool :=
  bad.cause = .unexpectedEnd ||
    bad.lead = 0xED && bytes.length = bad.position + 2 &&
      (bytes.drop (bad.position + 1)).all isContinuation

-- Decodes bytes that others follow, as far as they are whole sequences, and leaves the rest.
def decodeChunk (bytes : List UInt8) : Except Undecodable (List Char × List UInt8) :=
  match decodeFrom 0 bytes with
  | .ok cs => .ok (cs, [])
  | .error bad =>
    if bad.isOpen bytes then
      (decodeFrom 0 (bytes.take bad.position)).map fun cs => (cs, bytes.drop bad.position)
    else .error bad

-- A text file that is read from its start: the characters that it gives, and what breaks it off if
-- it does not come to its end.
structure Stream where
  characters : List Char
  broken? : Option Undecodable

namespace Stream

-- How many characters are asked for at a time.
def request : Nat := 4096

-- The bytes that are read at a time: as many as the wanted characters take by the measure of the
-- last chunk, which is told in bytes and characters, but not too few.
def chunkSize (bytes characters wanted : Nat) : Nat :=
  let needed :=
    if characters = 0 then 0
    else
      let needed := Numeric.roundedRatio bytes characters * wanted
      (Numeric.roundedRatio needed.num.natAbs needed.den).floor.toNat
  max 8192 needed

-- What a text gives while others may follow: a carriage return at its end waits for them.
def settled (text : List Char) : List Char :=
  unifyLineEnds (if text.getLast? = some '\r' then text.dropLast else text)

-- Reads chunks after a text, the bytes that it has left over and the measure of its last chunk. The
-- number bounds that of the chunks. A request that comes to bytes that do not decode gives nothing.
def readChunks : Nat → List Char → List UInt8 → Nat × Nat → List UInt8 → Stream
  | 0, text, _, _, _ => ⟨unifyLineEnds text, none⟩
  | count + 1, text, left, measure, unread =>
    let given := settled text
    let broken (bad : Undecodable) : Stream :=
      ⟨given.take (given.length / request * request), some bad⟩
    match unread with
    | [] =>
      match decodeFrom 0 left with
      | .ok cs => ⟨unifyLineEnds (text ++ cs), none⟩
      | .error bad => broken bad
    | unread =>
      let size := chunkSize measure.1 measure.2 (request - given.length % request)
      let chunk := unread.take size
      match decodeChunk (left ++ chunk) with
      | .ok (cs, left) =>
        let text := text ++ cs
        readChunks count text left (chunk.length, (settled text).length - given.length)
          (unread.drop size)
      | .error bad => broken bad

-- The text file of bytes, which every chunk takes one of at least.
def ofBytes (bytes : List UInt8) : Stream :=
  readChunks (bytes.length + 1) [] [] (0, 0) bytes

end Stream

end StepFlow.Text
