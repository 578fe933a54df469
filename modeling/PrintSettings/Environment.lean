/-! # Environment

The environment of a process is a list of variables. Neither their names nor their values need be
texts. It is kept as a block of entries `name=value`, each closed by a zero byte. -/

namespace PrintSettings

structure Variable where
  name : ByteArray
  value : ByteArray

namespace Variable

/-- The byte of an equals sign. -/
def equalsSign : UInt8 := 0x3d

/-- The variable of an entry. A name is not empty, so an equals sign at the start belongs to it. -/
def ofEntry? : List UInt8 → Option Variable
  | [] => none
  | first :: rest =>
    match rest.dropWhile (· != equalsSign) with
    | [] => none
    | _ :: value => some ⟨⟨(first :: rest.takeWhile (· != equalsSign)).toArray⟩, ⟨value.toArray⟩⟩

/-- The variables of a block of entries; entries of another form are passed over. -/
def ofBlock (block : ByteArray) : List Variable :=
  (block.toList.splitOnP (· == 0)).filterMap ofEntry?

end Variable

end PrintSettings
