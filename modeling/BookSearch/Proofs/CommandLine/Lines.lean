import BookSearch.CommandLine.Run

/-!
The lines of a text, told by what ends them. A line feed ends a line, and a carriage return in front of it
goes with it; what stands behind the last line feed is a line if it is not empty, and is kept as it is.
-/
namespace BookSearch
namespace CommandLine

end CommandLine
end BookSearch
