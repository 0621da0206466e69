/-!
# Writing directions, as text

One entry per run of characters with one class: the distance from the start of
the run before it, in base 36, and a letter for the class: L (left to right), R
and A (right to left), E and N (European and Arabic digits), S, C and T
(separators and terminators of numbers), O (neutral), B (boundary), M (mark)
and X (any other).
-/

namespace GraphCourier.Idna

/-- The runs, in increasing order. -/
def directionText : String := String.join [
  "0B 9X 5B eX 5O 2T 3O 5S 1C 1S 1C 2E aC 1O 6L qO 6L qO 4B 6X 1B qC 1O 1T 4O ",
  "4L 1O 2B 1O 2T 2E 2O 1L 1O 3E 1L 1O 5L nO 1L vO 1L chO 2L 7O eL 2O eL 5O ",
  "9L 1O hM 34L 4O 2L 8O 1L 5O 2L 1O 1L 32O 1L 3wM 7L 74O 1L 2O 2T 1R 1M 19R ",
  "1M 1R 1M 2R 1M 2R 1M 1R 1kN 6O 2A 1T 2A 1C 1A 1O 2M bA 1cM lN aT 1N 2A 3M ",
  "1A 2tM 7N 1O 1M 6A 2M 2O 1M 4A 2E aA nM 1A uM rA 2jM bA fR 17M 9R 2O 4R 3M ",
  "1R oM 4R 1M 9R 1M 3R 1M 5R 17M 3R 4A 1cN 2A 5M 9A 16M oN 1M wL 1jM 1L 1M ",
  "1L 4M 8L 4M 1L 3M 7L aM 2L tM 1L 1mM 1L 4M 4L 8M 1L kM 2L eT 2L 7T 1L 2M ",
  "1L 2M 2L 1lM 1L 4M 2L 4M 2L 2M 3L 3M 1L uM 2L 3M 1L bM 2L 1lM 1L 4M 5L 1M ",
  "2L 4M 1L kM 2L dT 1L 8M 6L 1M 1L 1mM 1L 2M 1L 1M 4L 8M 1L 7M 2L bM 2L uM ",
  "1L 1pM 1L cM 1L 11O 6T 1O 1L 5M 1L 3M 1L 1jM 1L 1M 3L 5M 3L 1M 4L 7M 2L bM ",
  "2L kO 7L 2M 1L 1mM 1L fM 2L kM 2L sM 2L 1lM 2L 4M 4L 8M 1L kM 2L tM 1L 20M ",
  "1L 7M 3L 1M 1L 2iM 1L 2M 7L 4T 1L 7M 8L 2qM 1L 2M 9L bM 7L 21M 2L rM 1L 1M ",
  "1L 1M 1O 4L 1fM eL 1M 5L 1M 2L 5M bL 1M 10L 9M 1L 2uM 4L 1M 6L 1M 2L 2M 2L ",
  "pM 2L 4M 3L gM 4L dM 1L 2M 2L 6M 1L fM 1L jjM 3L 1cO aL 2uO 1L hrX 1L qO ",
  "2L 39M 3L tM 2L uM 2L uM 2L 1sM 2L 1M 7L 8M 1L 2M bL 7T 1L 1M 1L iO aL 6O ",
  "bM 3B 1M 1L 39M 2L yM 1L 3aM 3L 4M 2L 9M 1L 6M 3L 4O 1L 3O 2L 48O yL nM 2L ",
  "2M 1L 1mM 1L 1M 7L 1M 1L 1M 1L 2M 8L 6M aL 2M 1L 1cM 1aL 2M cL kM 4L 1cM ",
  "1L 1M 5L 1M 1L 5M 1L 14M 9L cM 2L wM 4L 2M 2L 1M 3L 1kM 1L 1M 2L 3M 1L 1M ",
  "3L 1mM 8L 2M 2L 48M 3L 1M dL 1M 7L 4M 1L 6M 1L 3M 2L 5iM 1sL cdO 1L 1O 3L ",
  "bO 3L dO 3L dO 3L dO 2L 1X bB 3L 1R 1O oX 7C 1T 5O fC 1O qX 1B 5L 1X 4B 6E ",
  "1L 3E 6S 2O 3L 1E aS 2O 3L hT xL fM xL fO 2L 1O 4L 1O 2L aO 1L 1O 3L 5O 6L ",
  "1O 1L 1O 1L 1O 1L 4T 1L bO 2L 4O 5L 5O 4L 2O gL 15O 3L 4O 3mS 1T 1O 82L ",
  "1xO qL 1O 41L pO bL lO 14E kL 26O ciL 1O 9fL 74O hgL 2O wL 1O 2xL 6dO 6L ",
  "4M 3L 7O 7L 3jM 1L 2oM wO 2mL yO qL 1O 2hL cO 5yL qO cL 4X 1O 4L 3O pL 9M ",
  "4L 2O 1L 5O 2L 5O 3L 2hM 2O 2L 3O 1L 2iO 1L 5gO 10L 1lO 2L 1dO gL sO 3L ",
  "1eO fL cO 4L 4nO 4L 2rO 2L vO 1L 534O 1sL h3kO 1jL 92O 3L 2nM 4O 1M aO 2L ",
  "uM 2L 28M 2L eO yL 2uO 1L 3dM 1L 3M 1L 4M 1L pM 2L 1O 4M 1L bT 2L 1mO 4L ",
  "24M 2L qM iL dM 1L 12M 8L pM bL 1aM 3L 1cM 1L 2M 4L 2M 2L 13M 1L 1vM 6L 2M ",
  "2L 2M 2L cM 1L 8M 1L 1bM 1L 1fM 1L 1M 3L 2M 2L 5M 2L 1M 1L 16M 2L 8M 1L ",
  "37O 2L 3dM 1L 2M 1L 4M 1L fn3R 1M 1R aS 1R 12A dqO iA 3jO 1L wA dO 3M gO ",
  "aL 6M gO wC 1O 1C 1L 1O 1C 1O 9T 1O 2S 2O 3L 1O 1T 2O 1L 4A 3zB 1L 1O 2T ",
  "3O 5S 1C 1S 1C 2E aC 1O 6L qO 6L qO bL 3eT 2O 3T 2L 1O 7L aO 5L 77O 1L 1qO ",
  "25L 3O dL 3O 1L 2kM 1L 6aM 1E rL 3eM 5L w5R 7zO 1R 69M 3R 1M 2R 5M 4R 14M ",
  "3R 4M 1R 4lM 2R 2aO 7R cgA 10M 4A 8N aA 6R 15M 5R 6qN vR 18M 2R jA 1mM 6R ",
  "1cA mM bA vR iM 4R 3eL 1M 1L 1iM fL bO kL aM 1L 2M 2L aM 3L 1dM 4L 2M 2L ",
  "7M 1L 1pM 3L 10M 5L 1M 8L 1qM 1L cM 2L 1gM 9L aM 4L 2M 1L 2nM 3L 2M 1L 1M ",
  "2L 6M 1L 2M 1L 4dM 1L 3M 8L lM 2L 1lM 2L 3M 1L 11M 7L 3M 5L 1yM 6L dM 1L ",
  "1M 1L 1M 1L eM 2L 2dM 8L 2M 3L 1M 1L nM 1L 2cM 6L 1M 1L 4M 2L 1M 2L 6mM 4L ",
  "6M 2L 1M 2L rM 2L 2dM 8L 2M 1L 1M 2L vO dL 1qM 1L 1M 1L 2M 6L 1M 1L 2tM 3L ",
  "2M 4L 1M 5L 77M 9L 1M 2L 74M 2L 1M 1L 4M 1L 40M 4L 2M 2L 4M 1L wM 6L 2M 2L ",
  "14M 6L 2M 4L 8M 1L 9M 6L 2M 3L 1aM dL 1M 2L 5iM 1L 1M 3L 1M 1L 5lM 7L 1M ",
  "6L 2cM mL 2M 7L 1M 2L 1M 2L 3eM 6L 3M 1L 1M 2L 1M 7L 1M 1L 20M 2L 3M 1L 1M ",
  "1L 9nM 2L bM 2L 1gM 5L 5M 1L 1M 1L nM 1L 3eO 8T 4O hL 40eM 1L 6M fL 8ugM ",
  "cL 3M 3L 1xcM 5L 1nM 7L t4M 1L 1rM 4L 27O 1L 1M 1L f5kM 2L 1B 4L 3mkM 1aL ",
  "2M nL f4M 3L 9B 8M 8L 2M 7L uM 4L 1nO 2L lO 1uM 3O 1L 56O 2fL p0O 1L 1lO ",
  "1L 1lO 1L 1lO 1L 1lO 1L aE 1eL e8M 1jL 4M 1eL 8M 1L eM 1L mM 5L 1M fL 11sM ",
  "7L 1M hL 2M 7L 1M 2L 1M 5L 2sM 1L 4gM 7L afM 1L 1pM 4L fT 1L doM 4L 72M 2L ",
  "6rM 1L 2M 1L 7M 2L 5M 1L 7eR 5sM 7R 31M 7R mdA 28R 1sA 28R 4wA 6oO 2A eR ",
  "74O 18L 4O 2sL cO fL 2O fL 1O fL 1O 11L aE bO 5L vO 1L 1mO 6L 1pO 1L 4yO ",
  "6L 4aO rcL 4O hL 3O dL 3O 3bL 4O 2nL 6O cL 4O 1L fO cL 4O 1kL 8O aL 6O 14L ",
  "8O uL 2O 2L 26O 9gL cO eL 2O dL 3O 9L 7O 1aL 1O 7L 8O eL 4O 9L 7O 9L 7O ",
  "43L 1O 1jL 11E aL gvlzB 1L uB 2oL 3kM 6oL"]

end GraphCourier.Idna
